import Headline.CommandLine
import Headline.Proofs.Batch
import Headline.Proofs.RuleOptions

/-!
# What a run prints and how it ends

A run that gets past its command line, its log and its options checks a list of files under one
set of options (`Checks`). What it prints and how it ends is then a function of these, without a
ledger: one line for each title that comes up and is not in its right form, where it comes up
first, and code 1 if there is such a title or a file that fails.

The exit code is that of a check without any ledger. It and the set of titles that are reported
depend on which files can be read and on whether one fails, but not on order or repetition.
-/

namespace Headline

namespace Batch

variable (tokenize : Markdown.Tokenizer)

/-- The line that reports an occurrence. -/
def reportLine (o : RuleOptions) (x : String × Block × Nat) : String :=
  let title := titleAt o x
  let right := Check.rightForm o title
  let message := s!"Heading capitalization error. Expected: '{right}' found: '{title}'"
  s!"{x.1}:{x.2.1.line}: {message}\n"

/-- The title of an occurrence with its right form. -/
def correction (o : RuleOptions) (x : String × Block × Nat) : String × String :=
  (titleAt o x, Check.rightForm o (titleAt o x))

/-- A check without a ledger: every heading of every file is judged by itself. -/
def withoutLedger (o : RuleOptions) (files : Files) (paths : List String) : Tally where
  ledger := .empty
  found := (occurrences tokenize files paths).filterMap (verdictAt o)
  failed := paths.countP (fails tokenize files)

/-- The code of a check: 1 if a file fails or a title that comes up is not in its right form. -/
def codeOf (o : RuleOptions) (files : Files) (paths : List String) : Nat :=
  if (∃ path ∈ paths, fails tokenize files path = true)
      ∨ ∃ x ∈ occurrences tokenize files paths, Check.rightForm o (titleAt o x) ≠ titleAt o x
  then 1 else 0

theorem verdictAt_eq_none {o : RuleOptions} {x : String × Block × Nat} :
    verdictAt o x = none ↔ Check.rightForm o (titleAt o x) = titleAt o x := by
  rw [verdictAt, Option.map_eq_none_iff, Check.verdict]
  split
  next h => exact Iff.intro (fun _ => h) (fun _ => rfl)
  next h =>
    refine Iff.intro (fun hsome => ?_) (fun hright => absurd hright h)
    cases hsome

/-- A tally has that code as soon as it counts the files that fail and finds nothing exactly if
there is nothing to be found. -/
theorem exitCode_eq {tokenize : Markdown.Tokenizer} {o : RuleOptions} {files : Files}
    {paths : List String} {t : Tally}
    (hfailed : t.failed = paths.countP (fails tokenize files))
    (hfound : t.found = [] ↔
      ∀ x ∈ occurrences tokenize files paths, Check.rightForm o (titleAt o x) = titleAt o x) :
    t.exitCode = codeOf tokenize o files paths := by
  have hcount : t.failed = 0 ↔ ¬∃ path ∈ paths, fails tokenize files path = true := by
    rw [hfailed, List.countP_eq_zero]
    exact ⟨fun h ⟨path, hp, hf⟩ => h path hp hf, fun h path hp hf => h ⟨path, hp, hf⟩⟩
  have hwrong : t.found = [] ↔
      ¬∃ x ∈ occurrences tokenize files paths, Check.rightForm o (titleAt o x) ≠ titleAt o x := by
    rw [hfound]
    exact ⟨fun h ⟨x, hx, hne⟩ => hne (h x hx),
      fun h x hx => Decidable.byContradiction fun hne => h ⟨x, hx, hne⟩⟩
  have hboth : (t.found.isEmpty && decide (t.failed = 0)) = true ↔
      ¬((∃ path ∈ paths, fails tokenize files path = true)
        ∨ ∃ x ∈ occurrences tokenize files paths,
          Check.rightForm o (titleAt o x) ≠ titleAt o x) := by
    rw [Bool.and_eq_true, List.isEmpty_iff, decide_eq_true_eq, hwrong, hcount, not_or]
    exact and_comm
  rw [Tally.exitCode, codeOf]
  split
  next h => rw [if_neg (hboth.mp h)]
  next h => rw [if_pos (Decidable.byContradiction fun hno => h (hboth.mpr hno))]

theorem exitCode_withoutLedger (o : RuleOptions) (files : Files) (paths : List String) :
    (withoutLedger tokenize o files paths).exitCode = codeOf tokenize o files paths := by
  refine exitCode_eq rfl ?_
  rw [withoutLedger, List.filterMap_eq_nil_iff]
  exact forall₂_congr fun x _ => verdictAt_eq_none

/-- The tally of a check from an empty ledger. -/
def tallyOf (o : RuleOptions) (files : Files) (paths : List String) : Tally where
  ledger := Check.settle o .empty ((occurrences tokenize files paths).map (titleAt o))
  found := (reported o (occurrences tokenize files paths)).map fun x =>
    (x.1, Check.finding x.2.1 x.2.2 (titleAt o x) (Check.rightForm o (titleAt o x)))
  failed := paths.countP (fails tokenize files)

theorem checkFiles_start_yields (o : RuleOptions) (files : Files) (paths : List String) :
    (checkFiles tokenize o files .start paths).Yields (tallyOf tokenize o files paths) := by
  have hfiles := checkFiles_yields tokenize o files paths .start
  rw [show Tally.start.ledger.titles = [] from rfl, found_eq, show Tally.start.found = [] from rfl,
    List.nil_append, show Tally.start.failed = 0 from rfl, Nat.zero_add] at hfiles
  exact hfiles

theorem exitCode_tallyOf (o : RuleOptions) (files : Files) (paths : List String) :
    (tallyOf tokenize o files paths).exitCode = codeOf tokenize o files paths :=
  exitCode_eq rfl (List.map_eq_nil_iff.trans reported_eq_nil)

theorem output_tallyOf (o : RuleOptions) (files : Files) (paths : List String) :
    (tallyOf tokenize o files paths).output =
      String.join ((reported o (occurrences tokenize files paths)).map (reportLine o)) := by
  rw [Tally.output, tallyOf, List.map_map]
  rfl

theorem codeOf_congr {tokenize : Markdown.Tokenizer} {o : RuleOptions} {files : Files}
    {paths paths' : List String}
    (hfails : (∃ path ∈ paths, fails tokenize files path = true) ↔
      ∃ path ∈ paths', fails tokenize files path = true)
    (hmem : ∀ x, x ∈ occurrences tokenize files paths ↔ x ∈ occurrences tokenize files paths') :
    codeOf tokenize o files paths' = codeOf tokenize o files paths := by
  rw [codeOf, codeOf]
  simp only [hfails, hmem]

/-- Which titles are reported is a matter of which occurrences there are. -/
theorem mem_correction {o : RuleOptions} {xs : List (String × Block × Nat)}
    {pair : String × String} :
    pair ∈ (reported o xs).map (correction o) ↔
      ∃ x ∈ xs, Check.rightForm o (titleAt o x) ≠ titleAt o x ∧ correction o x = pair := by
  have hsplit : (reported o xs).map (correction o) =
      ((reported o xs).map (titleAt o)).map fun t => (t, Check.rightForm o t) := by
    rw [List.map_map]
    rfl
  rw [hsplit, List.mem_map]
  constructor
  · rintro ⟨t, ht, hpair⟩
    obtain ⟨hin, hwrong⟩ := mem_reported.mp ht
    obtain ⟨x, hx, rfl⟩ := List.mem_map.mp hin
    exact ⟨x, hx, hwrong, hpair⟩
  · rintro ⟨x, hx, hwrong, hpair⟩
    exact ⟨titleAt o x, mem_reported.mpr ⟨List.mem_map_of_mem hx, hwrong⟩, hpair⟩

/-! ## Other lists of the same files -/

/-- A list of files that comes from another one by putting it in another order, by naming a file
again further down, or by leaving out files that fail; in the last case the new list must still
have a failing file or a title that is not in its right form. -/
inductive Regrouped (o : RuleOptions) (files : Files) : List String → List String → Prop where
  | reordered {paths paths' : List String} (h : paths'.Perm paths) : Regrouped o files paths paths'
  | namedAgain {before after : List String} {path : String} (h : path ∈ before) :
      Regrouped o files (before ++ after) (before ++ path :: after)
  | failingLeftOut {paths paths' : List String} (hsub : paths'.Sublist paths)
      (hreadable : paths'.filter (!fails tokenize files ·) = paths.filter (!fails tokenize files ·))
      (hstill : (∃ path ∈ paths', fails tokenize files path = true)
        ∨ ∃ x ∈ occurrences tokenize files paths', Check.rightForm o (titleAt o x) ≠ titleAt o x) :
      Regrouped o files paths paths'

theorem Regrouped.mem_readable {tokenize : Markdown.Tokenizer} {o : RuleOptions} {files : Files}
    {paths paths' : List String}
    (h : Regrouped tokenize o files paths paths') :
    ∀ path, fails tokenize files path = false → (path ∈ paths ↔ path ∈ paths') := by
  intro path hpath
  cases h with
  | reordered h => exact h.mem_iff.symm
  | namedAgain h =>
      simp only [List.mem_append, List.mem_cons]
      refine Iff.intro (fun hin => hin.imp id Or.inr) fun hin => ?_
      rcases hin with hbefore | rfl | hafter
      · exact Or.inl hbefore
      · exact Or.inl h
      · exact Or.inr hafter
  | failingLeftOut _ hreadable _ =>
      have hfilter : ∀ ps : List String,
          path ∈ ps ↔ path ∈ ps.filter (!fails tokenize files ·) := fun ps => by
        rw [List.mem_filter, hpath]
        simp
      rw [hfilter paths, hfilter paths', hreadable]

theorem Regrouped.codeOf_eq {tokenize : Markdown.Tokenizer} {o : RuleOptions} {files : Files}
    {paths paths' : List String} (h : Regrouped tokenize o files paths paths') :
    codeOf tokenize o files paths' = codeOf tokenize o files paths := by
  have hmem := mem_occurrences_congr h.mem_readable
  cases h with
  | reordered h => exact codeOf_congr (by simp only [h.mem_iff]) hmem
  | @namedAgain before after path h =>
      refine codeOf_congr (Iff.intro ?_ ?_) hmem
      · rintro ⟨q, hq, hf⟩
        exact ⟨q, by simp only [List.mem_append, List.mem_cons] at hq ⊢; exact hq.imp id Or.inr, hf⟩
      · rintro ⟨q, hq, hf⟩
        simp only [List.mem_append, List.mem_cons] at hq
        rcases hq with hbefore | rfl | hafter
        · exact ⟨q, List.mem_append_left _ hbefore, hf⟩
        · exact ⟨q, List.mem_append_left _ h, hf⟩
        · exact ⟨q, List.mem_append_right _ hafter, hf⟩
  | failingLeftOut hsub _ hstill =>
      rw [codeOf, codeOf, if_pos hstill, if_pos]
      rcases hstill with ⟨path, hp, hf⟩ | ⟨x, hx, hwrong⟩
      · exact Or.inl ⟨path, hsub.mem hp, hf⟩
      · exact Or.inr ⟨x, (hmem x).mpr hx, hwrong⟩

end Batch

namespace CommandLine

open Batch

/-- A run gets as far as checking the files at `paths` under the options `o`. -/
def Checks (i : Installation) (texts : List String) (settings : Settings) (files : Files)
    (o : RuleOptions) (paths : List String) : Prop :=
  ∃ a setup, Arguments.parse texts = .ok a
    ∧ Log.Setup.start.opened a.logLevel settings.logLevel = (.ok (), setup)
    ∧ ((options i a settings files).run.run []).1 = .ok o
    ∧ files.documents Settings.isDocument a.paths = paths

variable {i : Installation}

theorem check_yields {a : Arguments} {files : Files} {paths : List String}
    (hpaths : files.documents Settings.isDocument a.paths = paths) (o : RuleOptions) :
    (check i a files o).Yields (tallyOf i.tokenize o files paths) := by
  unfold check
  rw [hpaths]
  exact (checkFiles_start_yields i.tokenize o files paths).bind
    ((Logged.yields_write _ _ _).bind (Logged.yields_pure _))

/-- Once there are options, the tally of the check is what the run ends with. -/
theorem proceed_of_options {a : Arguments} {settings : Settings} {files : Files}
    {o : RuleOptions} {t : Tally} (hoptions : ((options i a settings files).run.run []).1 = .ok o)
    (hcheck : (check i a files o).Yields t) :
    ((proceed i a settings files).run []).1 = (.ok t.exitCode, t.output) := by
  have hafter : (check i a files o >>= fun t =>
      (pure (.ok t.exitCode, t.output) : Logged (Except Breakdown Nat × String))).Yields
      (.ok t.exitCode, t.output) := hcheck.bind (Logged.yields_pure _)
  unfold proceed
  rw [StateT.run_bind]
  generalize hx : StateT.run (options i a settings files).run [] = x at hoptions
  obtain ⟨r, log⟩ := x
  cases hoptions
  exact hafter log

/-- The options that a command line and the entries of its file give, or why there are none. -/
def optionsOf (i : Installation) (a : Arguments) (files : Files) :
    Except OptionsFileFault (List (Value × Value)) → Except OptionsFault RuleOptions
  | .error fault => .error (.file fault)
  | .ok entries =>
    (RuleOptions.ofValue (i.basis files) (.map (a.overlay entries))).mapError .options

theorem options_yields {a : Arguments} {settings : Settings} {files : Files}
    {r : Except OptionsFileFault (List (Value × Value))}
    (hfile : (fileEntries i a settings files).run.Yields r) :
    (options i a settings files).run.Yields (optionsOf i a files r) := by
  have hadapt : ∀ {ε α : Type} {f : ε → OptionsFault} {x : LoggedExcept ε α} {r : Except ε α},
      x.run.Yields r → (options.adapt f x).run.Yields (r.mapError f) :=
    fun hx => Logged.Yields.bind hx (Logged.yields_pure _)
  cases r with
  | error fault => exact LoggedExcept.yields_bind_error (hadapt hfile)
  | ok entries =>
      exact LoggedExcept.yields_bind_ok (hadapt hfile) (hadapt (RuleOptions.build_yields _ _))

/-- Without options a run ends with code 2 or breaks down, and prints nothing. -/
theorem proceed_yields_of_fault {a : Arguments} {settings : Settings} {files : Files}
    {fault : OptionsFault} (h : (options i a settings files).run.Yields (.error fault)) :
    (proceed i a settings files).Yields
      (if fault.isConfiguration then .ok 2 else .error fault.breakdown, "") := by
  refine Logged.Yields.bind h ?_
  dsimp only
  split
  next => exact (Logged.yields_write _ _ _).bind (Logged.yields_pure _)
  next => exact Logged.yields_pure _

/-- How a run ends that checks files, and what it prints. -/
theorem run_of_checks {texts : List String} {settings : Settings} {files : Files}
    {o : RuleOptions} {paths : List String} (h : Checks i texts settings files o paths) :
    (run i texts settings files).ending = .ok (codeOf i.tokenize o files paths)
      ∧ (run i texts settings files).output =
        String.join ((reported o (occurrences i.tokenize files paths)).map (reportLine o)) := by
  obtain ⟨a, setup, hargs, hlog, hoptions, hpaths⟩ := h
  have hrun := proceed_of_options hoptions (check_yields hpaths o)
  rw [exitCode_tallyOf, output_tallyOf] at hrun
  unfold run
  rw [hargs]
  simp only [hlog]
  exact ⟨congrArg Prod.fst hrun, congrArg Prod.snd hrun⟩

/-- **The ledger does not change a verdict.** A run that checks files prints one line for every
title that is not in its right form, where it comes up first, and nothing else. It ends with
code 1 if a file fails or some heading is not in its right form, and so with the code of a check
without a ledger. Another run with the same options and the files of this one in another order,
with some of them named again or without some of those that fail, ends alike and reports the
same titles. -/
theorem run_reports_each_once {texts : List String} {settings : Settings} {files : Files}
    {o : RuleOptions} {paths : List String} (h : Checks i texts settings files o paths) :
    (run i texts settings files).output =
        String.join ((reported o (occurrences i.tokenize files paths)).map (reportLine o))
      ∧ ((reported o (occurrences i.tokenize files paths)).map (titleAt o)).Nodup
      ∧ (∀ t, t ∈ (reported o (occurrences i.tokenize files paths)).map (titleAt o) ↔
          t ∈ (occurrences i.tokenize files paths).map (titleAt o) ∧ Check.rightForm o t ≠ t)
      ∧ (run i texts settings files).ending = .ok (codeOf i.tokenize o files paths)
      ∧ (run i texts settings files).ending = .ok (withoutLedger i.tokenize o files paths).exitCode
      ∧ ∀ texts' settings' paths', Checks i texts' settings' files o paths' →
          Regrouped i.tokenize o files paths paths' →
          (run i texts' settings' files).ending = (run i texts settings files).ending
            ∧ ∀ pair, pair ∈ (reported o (occurrences i.tokenize files paths')).map (correction o) ↔
                pair ∈ (reported o (occurrences i.tokenize files paths)).map (correction o) := by
  obtain ⟨hending, houtput⟩ := run_of_checks h
  refine ⟨houtput, nodup_reported, fun t => mem_reported, hending, ?_, ?_⟩
  · rw [exitCode_withoutLedger]
    exact hending
  · intro texts' settings' paths' h' hregrouped
    obtain ⟨hending', -⟩ := run_of_checks h'
    refine ⟨?_, fun pair => ?_⟩
    · rw [hending', hending, hregrouped.codeOf_eq]
    · rw [mem_correction, mem_correction]
      exact exists_congr fun x =>
        and_congr_left fun _ => (mem_occurrences_congr hregrouped.mem_readable x).symm

/-- A folder with one document, which says `# the end`. -/
def oneDocument : Files :=
  .ofTree (.folder [("a.md", .file [35, 32, 116, 104, 101, 32, 101, 110, 100, 10])]) []

/-- The document is named twice, with a missing file in between. -/
theorem run_reports_each_once_named_twice :
    Checks .standard ["a.md", "gone.md", "a.md"] .forTests oneDocument
        ⟨.ofWords defaultWords [], false, []⟩ ["a.md", "gone.md", "a.md"]
      ∧ (run .standard ["a.md", "gone.md", "a.md"] .forTests oneDocument).output =
          "a.md:1: Heading capitalization error. Expected: 'The End' found: 'the end'\n"
      ∧ (run .standard ["a.md", "gone.md", "a.md"] .forTests oneDocument).ending = .ok 1
      ∧ (run .standard ["a.md", "a.md"] .forTests oneDocument).ending = .ok 1 := by
  have hchecks : Checks .standard ["a.md", "gone.md", "a.md"] .forTests oneDocument
      ⟨.ofWords defaultWords [], false, []⟩ ["a.md", "gone.md", "a.md"] :=
    ⟨_, _, rfl, rfl, rfl, by decide +kernel⟩
  have hfewer : Checks .standard ["a.md", "a.md"] .forTests oneDocument
      ⟨.ofWords defaultWords [], false, []⟩ ["a.md", "a.md"] :=
    ⟨_, _, rfl, rfl, rfl, by decide +kernel⟩
  obtain ⟨houtput, -, -, hending, -, hother⟩ := run_reports_each_once hchecks
  have hone : (run .standard ["a.md", "gone.md", "a.md"] .forTests oneDocument).ending = .ok 1 :=
    hending.trans (congrArg Except.ok (by decide +kernel))
  have hsame := hother _ _ _ hfewer
    (.failingLeftOut (by decide) (by decide +kernel) (Or.inr (by decide +kernel)))
  exact ⟨hchecks, houtput.trans (by decide +kernel), hone, hsame.1.trans hone⟩

end CommandLine

end Headline
