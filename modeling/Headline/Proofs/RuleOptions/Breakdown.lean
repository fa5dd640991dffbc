import Headline.Proofs.CommandLine
import Headline.Proofs.Pattern.Limits
import Headline.Proofs.RuleOptions.Refused

/-!
# Options on which a run breaks down

A fault of the options is a mistake in the configuration, which a run reports and ends with
code 2, but for a few. The check may be hindered (`Hindered`): it has to show a value that is too
long to be shown, or the default words are missing. And some patterns are not refused for a defect,
but exceed a limit or contradict themselves: the fault of such a pattern is not put down to the
configuration and does not name the option. In these cases the run ends without a code.

Which pattern counts is decided by the first that cannot be read, since the patterns behind it are
not looked at; and it is not reached if another option is refused before.
-/

namespace Headline

namespace RuleOptions

variable {basis : Basis} {entries : List (Value × Value)} {p : String} {fault : Pattern.Fault}

theorem ComesTo.ofValue_eq (h : ComesTo basis entries p fault) :
    ofValue basis (.map entries) = .error (.badPattern p fault) := by
  obtain ⟨⟨⟨hkeys, ⟨ws, hws⟩, ⟨b, hb⟩⟩, ⟨ds, hds⟩⟩, hfirst⟩ := h
  have hpatterns : checkPatterns basis.characters ((given entries .patterns).getD .null) =
      .error (.badPattern p fault) := hfirst.checkPatterns_eq
  rw [ofValue_map, (checkKeys_eq_ok_iff (u := ())).mpr hkeys]
  change resultOf basis entries = _
  rw [resultOf, checkWords_eq_ok_iff.mpr hws, checkFlag_eq_ok_iff.mpr hb, hds, hpatterns]
  rfl

/-- A fault that is not of the configuration shows that the values are a mapping. -/
theorem exists_entries_of_breaksDown {raw : Value} (h : BreaksDown (ofValue basis raw)) :
    ∃ entries, entriesOf raw = .ok entries ∧ ofValue basis raw = ofValue basis (.map entries) := by
  cases raw with
  | null => exact ⟨[], rfl, rfl⟩
  | map entries => exact ⟨entries, rfl, rfl⟩
  | _ =>
      obtain ⟨f, hf, hbreaks⟩ := h
      cases hf
      cases hbreaks

theorem ofValue_of_entriesOf {raw : Value} (h : entriesOf raw = .ok entries) :
    ofValue basis raw = ofValue basis (.map entries) := by
  cases raw <;> cases h <;> rfl

/-- **Which options break a run.** Values give options, or a mistake in the configuration, unless
the check is hindered or comes to a pattern that cannot be read but has no defect. A pattern with a
defect that it comes to is named in the mistake. One without a defect shows in its text that it
exceeds a limit or contradicts itself. After a mistake in the configuration a run ends with code 2,
and after any other fault without a code. -/
theorem build_breaks_iff (basis : Basis) (raw : Value) (log : List Log.Entry) :
    ((∃ f, ((build basis raw).run.run log).1 = .error f ∧ f.isConfiguration = false) ↔
        ∃ entries, entriesOf raw = .ok entries ∧ (Hindered basis entries
          ∨ ∃ p fault, ComesTo basis entries p fault ∧ fault.isDefect = false))
      ∧ (∀ entries p fault, entriesOf raw = .ok entries → ComesTo basis entries p fault →
        ((build basis raw).run.run log).1 = .error (.badPattern p fault)
          ∧ (fault.isDefect = true → (OptionFault.badPattern p fault).isConfiguration = true
            ∧ (OptionFault.badPattern p fault).message =
              s!"Invalid ignorePattern {Text.quoted p}: {fault.message p}")
          ∧ (fault.isDefect = false → Pattern.Exceeds p.toList fault))
      ∧ ∀ f, ((build basis raw).run.run log).1 = .error f →
        ∀ i a settings files entries, i.basis files = basis →
          (CommandLine.fileEntries i a settings files).run.Yields (.ok entries) →
          raw = .map (a.overlay entries) →
          (CommandLine.proceed i a settings files).Yields
            (if f.isConfiguration then .ok 2 else .error (.options f), "") := by
  have hbuild : ((build basis raw).run.run log).1 = ofValue basis raw := build_yields basis raw log
  rw [hbuild]
  refine ⟨⟨fun hbreaks => ?_, ?_⟩, ?_, ?_⟩
  · obtain ⟨entries, hentries, heq⟩ := exists_entries_of_breaksDown hbreaks
    have hmap : BreaksDown (ofValue basis (.map entries)) := heq ▸ hbreaks
    exact ⟨entries, hentries, breaksDown_ofValue_iff.mp hmap⟩
  · rintro ⟨entries, hentries, h⟩
    rw [ofValue_of_entriesOf hentries]
    exact breaksDown_ofValue_iff.mpr h
  · intro entries p fault hentries hcomes
    rw [ofValue_of_entriesOf hentries]
    refine ⟨hcomes.ofValue_eq, fun hdefect => ⟨hdefect, if_pos hdefect⟩, fun hdefect => ?_⟩
    have hreason := Pattern.compile_eq_error hcomes.2.2
    rw [hdefect] at hreason
    exact hreason.resolve_left nofun
  · rintro f hf i a settings files entries rfl hfile rfl
    have hoptions := CommandLine.options_yields hfile
    rw [CommandLine.optionsOf, hf] at hoptions
    exact CommandLine.proceed_yields_of_fault hoptions

/-- The bound of this repetition is the least that is too large. -/
theorem build_breaks_on_many_rounds :
    ((build .plain (.map [(.str "ignorePattern", .str "a\x7b4294967295\x7d")])).run.run []).1
        = .error (.badPattern "a\x7b4294967295\x7d" .tooManyRounds)
      ∧ (OptionFault.badPattern "a\x7b4294967295\x7d" .tooManyRounds).isConfiguration = false := by
  have hcompile : Pattern.compile Basis.plain.characters "a\x7b4294967295\x7d" =
      .error .tooManyRounds := by decide +kernel
  refine ⟨?_, rfl⟩
  rw [build_yields _ _ []]
  refine ComesTo.ofValue_eq ⟨⟨⟨?_, ⟨[], .nothing rfl⟩, ⟨false, .nothing⟩⟩, ⟨_, rfl⟩⟩,
    ⟨[], [], rfl, List.forall_mem_nil _⟩, hcompile⟩
  intro e he hmute
  obtain rfl := List.mem_singleton.mp he
  exact IsText.not_unshown ⟨_, rfl⟩ hmute.2

end RuleOptions

end Headline
