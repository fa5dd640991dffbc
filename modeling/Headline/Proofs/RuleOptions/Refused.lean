import Headline.Proofs.RuleOptions.Values

/-!
# Which options are refused

Options are `Unfit` if one of them has a value that stands for nothing, or if a pattern cannot be
read. Unfit options are refused as a mistake in the configuration, unless something comes first
that is not the fault of whoever wrote them (`Hindered`): a value that is to be shown in a warning
or in the mistake itself may be too long for that, and there may be no default words. With this,
the three outcomes are told apart by conditions that do not mention the check
(`build_refused_iff`).
-/

namespace Headline

namespace RuleOptions

/-! ## Options together -/

/-- The value that an option finally has: its last one, and none counts as null. -/
def finalValue (entries : List (Value × Value)) (n : Name) : Value := (given entries n).getD .null

section Outcomes

variable {basis : Basis} {entries : List (Value × Value)}

/-- What makes the options of some entries unfit for use. -/
inductive Unfit (characters : Pattern.CharacterNames) (entries : List (Value × Value)) : Prop
  | words (h : ∀ ws, ¬CallerWords (finalValue entries .words) ws)
  | flag (h : ∀ b, ¬CallerFlag (finalValue entries .allowFirst) b)
  | patterns (h : ∀ ps, ¬CallerPatterns (finalValue entries .patterns) ps)
  | pattern {p : String} {fault : Pattern.Fault}
      (hp : .str p ∈ patternValues (finalValue entries .patterns))
      (h : Pattern.compile characters p = .error fault)

/-- No key is in the way, and the words and the permission are accepted. -/
structure ReachesDefaults (entries : List (Value × Value)) : Prop where
  keys : ∀ e ∈ entries, ¬Mute e.1
  words : ∃ ws, CallerWords (finalValue entries .words) ws
  flag : ∃ b, CallerFlag (finalValue entries .allowFirst) b

/-- Besides, there are default words, so that the patterns are looked at. -/
structure ReachesPatterns (basis : Basis) (entries : List (Value × Value)) : Prop
    extends ReachesDefaults entries where
  defaults : ∃ ds, basis.defaults.result = .ok ds

/-- What keeps the check of options from an answer: something that it has to show and cannot, or
default words that are missing. -/
inductive Hindered (basis : Basis) (entries : List (Value × Value)) : Prop
  | key {e : Value × Value} (he : e ∈ entries) (h : Mute e.1)
  | word {w : Value} (hkeys : ∀ e ∈ entries, ¬Mute e.1)
      (hupto : UpTo IsText (wordValues (finalValue entries .words)) w) (hw : w.Unshown)
  | defaults {fault : WordFile.Fault} (hreaches : ReachesDefaults entries)
      (h : basis.defaults.result = .error fault)
  | pattern {w : Value} (hreaches : ReachesPatterns basis entries)
      (hupto : UpTo (Readable basis.characters) (patternValues (finalValue entries .patterns)) w)
      (hw : w.Unshown)

/-- Options in which all is text are not hindered by anything, given default words. -/
theorem not_hindered_of_texts (hkeys : ∀ e ∈ entries, IsText e.1)
    (hwords : ∀ w ∈ wordValues (finalValue entries .words), IsText w)
    (hpatterns : ∀ w ∈ patternValues (finalValue entries .patterns), IsText w)
    {ds : List String} (hdefaults : basis.defaults.result = .ok ds) : ¬Hindered basis entries := by
  intro h
  cases h with
  | key he h => exact (hkeys _ he).not_unshown h.2
  | word _ hupto hw => exact (hwords _ hupto.mem).not_unshown hw
  | defaults _ h => cases hdefaults.symm.trans h
  | pattern _ hupto hw => exact (hpatterns _ hupto.mem).not_unshown hw

/-- The check of options gets as far as this pattern, which cannot be read for this reason. -/
def ComesTo (basis : Basis) (entries : List (Value × Value)) (p : String)
    (fault : Pattern.Fault) : Prop :=
  ReachesPatterns basis entries
    ∧ FirstRefused basis.characters (finalValue entries .patterns) p fault

theorem breaksDown_checkKeys_iff : BreaksDown (checkKeys entries) ↔ ∃ e ∈ entries, Mute e.1 := by
  induction entries with
  | nil => simp [checkKeys]
  | cons e entries ih =>
      simp only [List.mem_cons, exists_eq_or_imp, ← ih]
      rw [checkKeys, Mute, ← Name.ofKey?_eq_none_iff]
      cases Name.ofKey? e.1 with
      | some n => simp
      | none =>
          cases hshown : e.1.text with
          | ok s => simp [Value.exists_text_iff.mp ⟨s, hshown⟩, Except.bind]
          | error fault =>
              simp [Value.text_error_iff.mp hshown, Except.bind, OptionFault.isConfiguration]

/-- Options that give a fault which is no mistake in the configuration. -/
theorem breaksDown_ofValue_iff :
    BreaksDown (ofValue basis (.map entries)) ↔ Hindered basis entries
      ∨ ∃ p fault, ComesTo basis entries p fault ∧ fault.isDefect = false := by
  have hdefaults : BreaksDown (basis.defaults.result.mapError OptionFault.noDefaultWords) ↔
      ∃ fault, basis.defaults.result = .error fault := by
    cases basis.defaults.result <;> simp [OptionFault.isConfiguration]
  rw [ofValue_map, resultOf]
  simp only [breaksDown_bind_iff, breaksDown_checkKeys_iff, breaksDown_checkWords_iff,
    not_breaksDown_checkFlag, hdefaults, breaksDown_checkPatterns_iff, checkKeys_eq_ok_iff,
    checkWords_eq_ok_iff, checkFlag_eq_ok_iff, mapError_eq_ok_iff, false_or]
  constructor
  · rintro (⟨e, he, hmute⟩ | ⟨-, hkeys, ⟨w, hupto, hw⟩ | ⟨ws, hwords, b, hflag, hrest⟩⟩)
    · exact Or.inl (.key he hmute)
    · exact Or.inl (.word hkeys hupto hw)
    · have hreaches : ReachesDefaults entries := ⟨hkeys, ⟨ws, hwords⟩, ⟨b, hflag⟩⟩
      rcases hrest with ⟨fault, hfault⟩ | ⟨ds, hds, hpatterns | ⟨ps, -, hpure⟩⟩
      · exact Or.inl (.defaults hreaches hfault)
      · have hreaches : ReachesPatterns basis entries := ⟨hreaches, ds, hds⟩
        rcases hpatterns with ⟨w, hupto, hw⟩ | ⟨p, fault, hfirst, hdefect⟩
        · exact Or.inl (.pattern hreaches hupto hw)
        · exact Or.inr ⟨p, fault, ⟨hreaches, hfirst⟩, hdefect⟩
      · exact absurd hpure (not_breaksDown_ok _)
  · rintro (hhindered | ⟨p, fault, ⟨⟨⟨hkeys, ⟨ws, hws⟩, ⟨b, hb⟩⟩, ⟨ds, hds⟩⟩, hfirst⟩, hdefect⟩)
    · cases hhindered with
      | key he hmute => exact Or.inl ⟨_, he, hmute⟩
      | word hkeys hupto hw => exact Or.inr ⟨(), hkeys, Or.inl ⟨_, hupto, hw⟩⟩
      | defaults hreaches hfault =>
          obtain ⟨hkeys, ⟨ws, hws⟩, ⟨b, hb⟩⟩ := hreaches
          exact Or.inr ⟨(), hkeys, Or.inr ⟨ws, hws, b, hb, Or.inl ⟨_, hfault⟩⟩⟩
      | pattern hreaches hupto hw =>
          obtain ⟨⟨hkeys, ⟨ws, hws⟩, ⟨b, hb⟩⟩, ⟨ds, hds⟩⟩ := hreaches
          exact Or.inr ⟨(), hkeys, Or.inr ⟨ws, hws, b, hb,
            Or.inr ⟨ds, hds, Or.inl (Or.inl ⟨_, hupto, hw⟩)⟩⟩⟩
    · exact Or.inr ⟨(), hkeys, Or.inr ⟨ws, hws, b, hb,
        Or.inr ⟨ds, hds, Or.inl (Or.inr ⟨p, fault, hfirst, hdefect⟩)⟩⟩⟩

/-- Checked options are what the values stand for. -/
theorem resultOf_eq_ok_iff_stands {o : RuleOptions} :
    resultOf basis entries = .ok o ↔
      (∃ ds ws, basis.defaults.result = .ok ds ∧ CallerWords (finalValue entries .words) ws
          ∧ o.words = .ofWords ds ws)
        ∧ CallerFlag (finalValue entries .allowFirst) o.allowFirst
        ∧ ∃ ps, CallerPatterns (finalValue entries .patterns) ps
          ∧ List.Forall₂ (fun p q => Pattern.compile basis.characters p = .ok q) ps o.patterns := by
  rw [resultOf_eq_ok_iff]
  constructor
  · intro h
    obtain ⟨ds, ws, hds, hws, hwords⟩ := h .words
    exact ⟨⟨ds, ws, hds, checkWords_eq_ok_iff.mp hws, hwords⟩,
      checkFlag_eq_ok_iff.mp (h .allowFirst), checkPatterns_eq_ok_iff.mp (h .patterns)⟩
  · rintro ⟨⟨ds, ws, hds, hws, hwords⟩, hflag, hpatterns⟩ n
    cases n with
    | words => exact ⟨ds, ws, hds, checkWords_eq_ok_iff.mpr hws, hwords⟩
    | allowFirst => exact checkFlag_eq_ok_iff.mpr hflag
    | patterns => exact checkPatterns_eq_ok_iff.mpr hpatterns

/-- Options that are given are not unfit. -/
theorem not_unfit_of_ofValue {o : RuleOptions} (h : ofValue basis (.map entries) = .ok o) :
    ¬Unfit basis.characters entries := by
  obtain ⟨⟨ds, ws, -, hws, -⟩, hflag, ps, hps, hread⟩ :=
    resultOf_eq_ok_iff_stands.mp (resultOf_of_ofValue h)
  intro hunfit
  cases hunfit with
  | words h => exact h ws hws
  | flag h => exact h _ hflag
  | patterns h => exact h ps hps
  | pattern hp h =>
      rcases hps.mem_or_blank hp with hmem | rfl
      · obtain ⟨q, hq⟩ := exists_forall₂_compile_iff.mp ⟨o.patterns, hread⟩ _ hmem
        cases h.symm.trans hq
      · cases h.symm.trans compile_blank

/-- Options that are not unfit are given if nothing hinders the check. -/
theorem exists_ofValue_of_fit (hfit : ¬Unfit basis.characters entries)
    (hfree : ¬Hindered basis entries) : ∃ o, ofValue basis (.map entries) = .ok o := by
  have hkeys : ∀ e ∈ entries, ¬Mute e.1 := fun e he hmute => hfree (.key he hmute)
  obtain ⟨ws, hws⟩ := not_forall_not.mp fun h => hfit (.words h)
  obtain ⟨b, hb⟩ := not_forall_not.mp fun h => hfit (.flag h)
  obtain ⟨ps, hps⟩ := not_forall_not.mp fun h => hfit (.patterns h)
  obtain ⟨qs, hqs⟩ :
      ∃ qs, List.Forall₂ (fun p q => Pattern.compile basis.characters p = .ok q) ps qs := by
    refine exists_forall₂_compile_iff.mpr fun p hp => ?_
    cases h : Pattern.compile basis.characters p with
    | ok q => exact ⟨q, rfl⟩
    | error fault => exact absurd (.pattern (hps.mem_patternValues hp) h) hfit
  cases hds : basis.defaults.result with
  | error fault => exact absurd (.defaults ⟨hkeys, ⟨ws, hws⟩, ⟨b, hb⟩⟩ hds) hfree
  | ok ds =>
      refine ⟨⟨.ofWords ds ws, b, qs⟩, ?_⟩
      rw [ofValue_map, (checkKeys_eq_ok_iff (u := ())).mpr hkeys]
      exact resultOf_eq_ok_iff_stands.mpr ⟨⟨ds, ws, hds, hws, rfl⟩, hb, ps, hps, hqs⟩

/-- **Which options are refused.** Let every pattern among the values of options be readable or
have a defect. Then options are refused, as a mistake in the configuration, exactly if one of
them finally has a value that stands for nothing or if a pattern cannot be read, and nothing
hinders the check before it gets to say so. If something hinders it, there is a fault of another
kind. Otherwise the words are those of the caller in lower case, the permission is the given one,
and the patterns are read in their order. -/
theorem build_refused_iff
    (hread : ∀ p, .str p ∈ patternValues (finalValue entries .patterns) →
      ∀ fault, Pattern.compile basis.characters p = .error fault → fault.isDefect = true)
    (log : List Log.Entry) :
    ((∃ f, ((build basis (.map entries)).run.run log).1 = .error f ∧ f.isConfiguration = true) ↔
        Unfit basis.characters entries ∧ ¬Hindered basis entries)
      ∧ (Hindered basis entries →
        ∃ f, ((build basis (.map entries)).run.run log).1 = .error f ∧ f.isConfiguration = false)
      ∧ (¬Unfit basis.characters entries → ¬Hindered basis entries →
        ∃ o ws ps, ((build basis (.map entries)).run.run log).1 = .ok o
          ∧ CallerWords (finalValue entries .words) ws
          ∧ o.words.custom = (ws.map Text.lower).eraseDups
          ∧ CallerFlag (finalValue entries .allowFirst) o.allowFirst
          ∧ CallerPatterns (finalValue entries .patterns) ps
          ∧ List.Forall₂ (fun p q => Pattern.compile basis.characters p = .ok q)
              ps o.patterns) := by
  have hbuild : ((build basis (.map entries)).run.run log).1 = ofValue basis (.map entries) :=
    build_yields _ _ log
  -- a pattern without a defect is not among those that the check comes to
  have hbreaks : BreaksDown (ofValue basis (.map entries)) ↔ Hindered basis entries := by
    rw [breaksDown_ofValue_iff, or_iff_left]
    rintro ⟨p, fault, ⟨-, hupto, hp⟩, hdefect⟩
    cases (hread p hupto.mem fault hp).symm.trans hdefect
  rw [hbuild]
  refine ⟨⟨?_, ?_⟩, hbreaks.mpr, fun hfit hfree => ?_⟩
  · rintro ⟨f, hf, hconfiguration⟩
    have hfree : ¬Hindered basis entries := fun hhindered => by
      obtain ⟨f', hf', hother⟩ := hbreaks.mpr hhindered
      cases hf.symm.trans hf'
      cases hconfiguration.symm.trans hother
    refine ⟨Classical.byContradiction fun hfit => ?_, hfree⟩
    obtain ⟨o, ho⟩ := exists_ofValue_of_fit hfit hfree
    cases ho.symm.trans hf
  · rintro ⟨hunfit, hfree⟩
    cases hresult : ofValue basis (.map entries) with
    | ok o => exact absurd hunfit (not_unfit_of_ofValue hresult)
    | error f =>
        refine ⟨f, rfl, ?_⟩
        cases hf : f.isConfiguration with
        | true => rfl
        | false => exact absurd (hbreaks.mp ⟨f, hresult, hf⟩) hfree
  · obtain ⟨o, ho⟩ := exists_ofValue_of_fit hfit hfree
    obtain ⟨⟨ds, ws, -, hws, hwords⟩, hflag, ps, hps, hread⟩ :=
      resultOf_eq_ok_iff_stands.mp (resultOf_of_ofValue ho)
    exact ⟨o, ws, ps, ho, hws, congrArg WordSet.custom hwords, hflag, hps, hread⟩

end Outcomes

/-- The second of two patterns opens a group and does not close it. -/
theorem build_refused_iff_open_group :
    (∀ p, .str p ∈ [Value.str "a+", .str "("] →
        ∀ fault, Pattern.compile Basis.plain.characters p = .error fault → fault.isDefect = true)
      ∧ ¬Hindered .plain [(.str "ignore_pattern", .list [.str "a+", .str "("])]
      ∧ ∃ f, ((build .plain
          (.map [(.str "ignore_pattern", .list [.str "a+", .str "("])])).run.run []).1
          = .error f ∧ f.isConfiguration = true := by
  have hplus : (Pattern.compile Basis.plain.characters "a+").isOk = true := by decide +kernel
  have hopen : Pattern.compile Basis.plain.characters "(" =
      .error (.located .unterminatedGroup 0) := by decide +kernel
  have hread : ∀ p, .str p ∈ [Value.str "a+", .str "("] → ∀ fault,
      Pattern.compile Basis.plain.characters p = .error fault → fault.isDefect = true := by
    intro p hp fault hfault
    rcases List.mem_cons.mp hp with h | h
    · cases h
      rw [hfault] at hplus
      cases hplus
    · cases List.mem_singleton.mp h
      cases hopen.symm.trans hfault
      rfl
  have hunfit : Unfit Basis.plain.characters
      [(.str "ignore_pattern", .list [.str "a+", .str "("])] :=
    .pattern (List.mem_cons_of_mem _ (List.mem_singleton.mpr rfl)) hopen
  have hfree : ¬Hindered .plain [(.str "ignore_pattern", .list [.str "a+", .str "("])] := by
    have hpatterns : ∀ w ∈ [Value.str "a+", .str "("], IsText w := by simp [IsText]
    refine not_hindered_of_texts ?_ (List.forall_mem_nil _) hpatterns rfl
    simp [IsText]
  refine ⟨hread, hfree, (build_refused_iff ?_ []).1.mpr ⟨hunfit, hfree⟩⟩
  exact hread

/-- The value `true` is refused for the words, since it is no list; `false` is none either, and
counts as no words. -/
theorem build_accepts_false :
    (Value.bool false ≠ .null
        ∧ ∀ ws : List String, Value.bool false ≠ .list (ws.map .str)
          ∧ Value.bool false ≠ .tuple (ws.map .str) ∧ Value.bool false ≠ .set (ws.map .str))
      ∧ ((build .plain (.map [(.str "lowerCaseWords", .bool false)])).run.run []).1
        = .ok ⟨.ofWords defaultWords [], false, []⟩
      ∧ ((build .plain (.map [(.str "lowerCaseWords", .bool true)])).run.run []).1
        = .error .wordsNotList :=
  ⟨⟨nofun, fun _ => ⟨nofun, nofun, nofun⟩⟩, rfl, rfl⟩

end RuleOptions

end Headline
