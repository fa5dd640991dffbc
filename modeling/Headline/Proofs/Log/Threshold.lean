import Headline.CommandLine
import Headline.Proofs.Log

/-!
# Opening the log, once

The first call opens the log and all later ones leave it as it is, so a series of calls comes to
what its first one does (`calls_of_isOpen`). That one makes an outlet, whatever the name is, and
sets the level of the name. A name that is not that of a level stands for the usual one, which is
the level from the start. Two names that are meant so do not: levels are looked up in a list in
which these stand for something else. They are a fault, though the log is open afterwards as it
should be, and the run ends with it before it has looked at its options.
-/

namespace Headline

namespace Log

namespace Threshold

/-- The names of levels, in capitals. -/
inductive NamedBy : String → Threshold → Prop where
  | own (t : Threshold) : NamedBy t.name t
  | warn : NamedBy "WARN" .warning
  | fatal : NamedBy "FATAL" .critical

/-- The names that are taken by something that is no level, with the fault that it is. -/
inductive TakenBy : String → ThresholdFault → Prop where
  | lineFormat : TakenBy "BASIC_FORMAT" .lineFormat
  | styleTable : TakenBy "_STYLES" .styleTable

variable {name : String} {t : Threshold} {fault : ThresholdFault}

theorem NamedBy.ofName_eq (h : NamedBy name t) : ofName name = .ok t := by
  cases h with
  | own t => cases t <;> rfl
  | warn => rfl
  | fatal => rfl

theorem TakenBy.ofName_eq (h : TakenBy name fault) : ofName name = .error fault := by
  cases h <;> rfl

theorem ofName_cases (name : String) :
    (∃ t, NamedBy name t) ∨ (∃ fault, TakenBy name fault) ∨ ofName name = .ok .warning := by
  unfold ofName
  split
  · exact Or.inl ⟨_, .own .everything⟩
  · exact Or.inl ⟨_, .own .debug⟩
  · exact Or.inl ⟨_, .own .info⟩
  · exact Or.inl ⟨_, .own .warning⟩
  · exact Or.inl ⟨_, .warn⟩
  · exact Or.inl ⟨_, .own .error⟩
  · exact Or.inl ⟨_, .own .critical⟩
  · exact Or.inl ⟨_, .fatal⟩
  · exact Or.inr (Or.inl ⟨_, .lineFormat⟩)
  · exact Or.inr (Or.inl ⟨_, .styleTable⟩)
  · exact Or.inr (Or.inr rfl)

theorem ofName_eq_error_iff : ofName name = .error fault ↔ TakenBy name fault := by
  refine ⟨fun h => ?_, TakenBy.ofName_eq⟩
  rcases ofName_cases name with ⟨t, ht⟩ | ⟨other, hother⟩ | husual
  · rw [ht.ofName_eq] at h
    cases h
  · rw [hother.ofName_eq] at h
    cases h
    exact hother
  · rw [husual] at h
    cases h

/-- A name of no level gives the usual level, if it gives one. -/
theorem eq_warning_of_ofName (h : ofName name = .ok t) (hnone : ∀ u, ¬NamedBy name u) :
    t = .warning := by
  rcases ofName_cases name with ⟨u, hu⟩ | ⟨fault, hfault⟩ | husual
  · exact absurd hu (hnone u)
  · rw [hfault.ofName_eq] at h
    cases h
  · rw [husual] at h
    cases h
    rfl

end Threshold

namespace Setup

variable {s : Setup} {asked : Option String} {setting : String}

/-- What each of several calls comes to, with the setup behind it. -/
def calls (s : Setup) (setting : String) : List (Option String) →
    List (Except ThresholdFault Unit × Setup)
  | [] => []
  | asked :: later =>
    s.opened asked setting :: (s.opened asked setting).2.calls setting later

theorem nameFor_eq :
    nameFor asked setting = Text.upper ((asked.filter (· ≠ "")).getD setting) := by
  cases asked with
  | none => rfl
  | some name => by_cases h : name = "" <;> simp [nameFor, Option.filter, h]

theorem opened_of_isOpen (h : s.isOpen = true) : s.opened asked setting = (.ok (), s) := by
  rw [opened, if_pos h]

/-- Calls on an open log change nothing. -/
theorem calls_of_isOpen (h : s.isOpen = true) (later : List (Option String)) :
    s.calls setting later = later.map fun _ => (.ok (), s) := by
  induction later with
  | nil => rfl
  | cons asked later ih => rw [calls, opened_of_isOpen h, ih, List.map_cons]

/-- What the first call does. -/
theorem opened_start (asked : Option String) (setting : String) :
    ∃ result t, start.opened asked setting = (result, ⟨1, t⟩)
      ∧ (∀ fault, result = .error fault ↔ Threshold.TakenBy (nameFor asked setting) fault)
      ∧ (∀ u, Threshold.NamedBy (nameFor asked setting) u → t = u)
      ∧ ((∀ u, ¬Threshold.NamedBy (nameFor asked setting) u) → t = .warning) := by
  simp only [← Threshold.ofName_eq_error_iff]
  rw [opened, if_neg (by decide)]
  cases hname : Threshold.ofName (nameFor asked setting) with
  | ok t =>
      refine ⟨.ok (), t, rfl, fun fault => ⟨nofun, nofun⟩, fun u hu => ?_,
        Threshold.eq_warning_of_ofName hname⟩
      rw [hu.ofName_eq] at hname
      exact (Except.ok.inj hname).symm
  | error fault =>
      refine ⟨.error fault, .warning, rfl, fun other => ?_, fun u hu => ?_, fun _ => rfl⟩
      · rw [Except.error.injEq, Except.error.injEq]
      · rw [hu.ofName_eq] at hname
        cases hname

end Setup

end Log

namespace CommandLine

open Log

variable {i : Installation} {texts : List String} {settings : Settings} {files : Files}
  {a : Arguments} {fault : ThresholdFault}

/-- Once the log is open, its level is not found fault with. -/
theorem proceed_ne_threshold (log : List Log.Entry) :
    ((proceed i a settings files).run log).1.1 ≠ .error (.threshold fault) := by
  unfold proceed
  refine Logged.of_bind (P := fun r : Except Breakdown Nat × String =>
    r.1 ≠ .error (.threshold fault)) (fun r log => ?_) log
  cases r with
  | ok o => exact nofun
  | error refusal =>
      dsimp only
      split
      · exact nofun
      · cases refusal <;> exact nofun

/-- A run that cannot open its log does nothing else, and no other run ends with such a fault. -/
theorem ending_eq_threshold_iff (hargs : Arguments.parse texts = .ok a) :
    (run i texts settings files).ending = .error (.threshold fault) ↔
      (Setup.start.opened a.logLevel settings.logLevel).1 = .error fault := by
  unfold run
  rw [hargs]
  dsimp only
  split
  next other _ hopened => simp [hopened]
  next setup hopened =>
    rw [hopened]
    exact iff_of_false (proceed_ne_threshold []) nofun

end CommandLine

namespace Log

/-- **The log is opened once, and with which names it is a fault.** Of several calls the first
makes the one outlet and sets the level that the name in capitals is that of, or the usual level
if there is none, and the others change nothing and do not fail. The first fails exactly if the
name is taken by something that is no level; a run that opens its log with such a name ends with
this fault. -/
theorem opened_breaks_iff (asked : Option String) (setting : String) :
    let name := Text.upper ((asked.filter (· ≠ "")).getD setting)
    (∃ result t, (∀ later, Setup.start.calls setting (asked :: later) =
          (result, ⟨1, t⟩) :: later.map fun _ => (.ok (), ⟨1, t⟩))
      ∧ (∀ u, Threshold.NamedBy name u → t = u)
      ∧ ((∀ u, ¬Threshold.NamedBy name u) → t = .warning)
      ∧ ∀ fault, result = .error fault ↔ Threshold.TakenBy name fault)
    ∧ ∀ i texts settings files a fault, Arguments.parse texts = .ok a → a.logLevel = asked →
        settings.logLevel = setting →
        ((CommandLine.run i texts settings files).ending = .error (.threshold fault) ↔
          Threshold.TakenBy name fault) := by
  intro name
  obtain ⟨result, t, hopened, hfault, hnamed, husual⟩ := Setup.opened_start asked setting
  rw [Setup.nameFor_eq] at hfault hnamed husual
  refine ⟨⟨result, t, fun later => ?_, hnamed, husual, hfault⟩, ?_⟩
  · rw [Setup.calls, hopened, Setup.calls_of_isOpen (s := ⟨1, t⟩) rfl]
  · rintro i texts settings files a fault hargs rfl rfl
    rw [CommandLine.ending_eq_threshold_iff hargs, hopened]
    exact hfault fault

/-- A run that is asked for the table of styles. -/
theorem opened_breaks_iff_styles :
    Threshold.TakenBy (Text.upper "_styles") .styleTable
      ∧ Arguments.parse ["--log-level", "_styles", "a.md"] =
          .ok ⟨["a.md"], none, none, false, none, some "_styles"⟩
      ∧ (CommandLine.run .standard ["--log-level", "_styles", "a.md"] .forTests
          (.ofTree default [])).ending = .error (.threshold .styleTable) := by
  have hname : Text.upper "_styles" = "_STYLES" := by decide +kernel
  have htaken : Threshold.TakenBy (Text.upper "_styles") .styleTable := by
    rw [hname]
    exact .styleTable
  have hargs : Arguments.parse ["--log-level", "_styles", "a.md"] =
      .ok ⟨["a.md"], none, none, false, none, some "_styles"⟩ := rfl
  refine ⟨htaken, hargs, ?_⟩
  have hending := (opened_breaks_iff (some "_styles") "DEBUG").2
  exact (hending .standard _ .forTests _ _ _ hargs rfl rfl).mpr htaken

/-- The name of the format of log lines does not stand for the usual level. -/
theorem opened_fails_on_lineFormat :
    Setup.start.opened (some "basic_format") "WARNING" = (.error .lineFormat, ⟨1, .warning⟩) := by
  have hname : Setup.nameFor (some "basic_format") "WARNING" = "BASIC_FORMAT" := by decide +kernel
  rw [Setup.opened, hname]
  rfl

end Log

end Headline
