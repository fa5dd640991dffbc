import Headline.Pattern.Basic
import Headline.Proofs.Pattern.Removal
import Mathlib

/-!
# Taking code out of a text

Code stands between two backticks, and the pattern of a backtick, a run of other characters and a
backtick takes it out of a text. What it takes out is told here without matching (`CodeCut`): from
left to right, a backtick goes together with the run behind it and the backtick at its end, if
there is such a run, and every other character stays.

So a piece of code without a backtick goes, and so does one made of such pieces with two backticks
between neighbours (`CodeRuns`), for then the backticks pair up around the runs. No other piece of
code goes (`CodeRuns.of_cut`): if the backticks do not pair up like that, a character of the code
stays, or its last backtick stays or takes away the text behind it.
-/

namespace Headline

open Pattern

/-- The mark of code. -/
def tick : Char := Char.ofNat 0x60

/-! ## From left to right -/

/-- Behind a mark, a run of other characters and a mark that closes it. -/
def OpensCode (cs : List Char) : Prop :=
  ∃ run rest, run ≠ [] ∧ tick ∉ run ∧ cs = run ++ tick :: rest

/-- What is left of a text when code is taken out of it. -/
inductive CodeCut : List Char → List Char → Prop
  | nil : CodeCut [] []
  | code {run cs ds : List Char} (hne : run ≠ []) (hrun : tick ∉ run) (h : CodeCut cs ds) :
      CodeCut (tick :: (run ++ tick :: cs)) ds
  | other {c : Char} {cs ds : List Char} (hc : c ≠ tick) (h : CodeCut cs ds) :
      CodeCut (c :: cs) (c :: ds)
  | lone {cs ds : List Char} (hcs : ¬OpensCode cs) (h : CodeCut cs ds) :
      CodeCut (tick :: cs) (tick :: ds)

variable {c : Char} {cs ds run rest text before : List Char} {offset : Nat}

theorem exists_run (cs : List Char) :
    ∃ run rest, cs = run ++ rest ∧ tick ∉ run ∧ ∀ c ∈ rest.head?, c = tick := by
  refine ⟨cs.takeWhile (· != tick), cs.dropWhile (· != tick), List.takeWhile_append_dropWhile.symm,
    fun hmem => ?_, fun c hc => ?_⟩
  · have hne := List.mem_takeWhile_imp hmem
    simp at hne
  · have hnot := List.head?_dropWhile_not (· != tick) cs
    rw [hc] at hnot
    simpa using hnot

/-- Where no code opens, there is no run before the next mark, or no next mark. -/
theorem run_of_not_opensCode (h : ¬OpensCode cs) :
    ∃ run rest, cs = run ++ rest ∧ tick ∉ run ∧ (∀ c ∈ rest.head?, c = tick)
      ∧ (run = [] ∨ rest = []) := by
  obtain ⟨run, rest, rfl, hrun, hrest⟩ := exists_run cs
  refine ⟨run, rest, rfl, hrun, hrest, ?_⟩
  cases rest with
  | nil => exact Or.inr rfl
  | cons c rest =>
      obtain rfl := hrest c rfl
      exact Or.inl (Decidable.byContradiction fun hne => h ⟨run, rest, hne, hrun, rfl⟩)

theorem exists_codeCut : ∀ cs : List Char, ∃ ds, CodeCut cs ds
  | [] => ⟨[], .nil⟩
  | c :: cs => by
      by_cases hc : c = tick
      · subst hc
        by_cases hcs : OpensCode cs
        · obtain ⟨run, rest, hne, hrun, rfl⟩ := hcs
          have hshorter : rest.length < (tick :: (run ++ tick :: rest)).length := by
            simp only [List.length_cons, List.length_append]
            omega
          obtain ⟨ds, hds⟩ := exists_codeCut rest
          exact ⟨ds, .code hne hrun hds⟩
        · obtain ⟨ds, hds⟩ := exists_codeCut cs
          exact ⟨tick :: ds, .lone hcs hds⟩
      · obtain ⟨ds, hds⟩ := exists_codeCut cs
        exact ⟨c :: ds, .other hc hds⟩
termination_by cs => cs.length

theorem CodeCut.append (htext : tick ∉ text) (h : CodeCut cs ds) :
    CodeCut (text ++ cs) (text ++ ds) := by
  induction text with
  | nil => exact h
  | cons c text ih =>
      obtain ⟨hc, htext⟩ := not_or.mp (mt List.mem_cons.mpr htext)
      exact .other (Ne.symm hc) (ih htext)

/-! ## The pattern -/

namespace Pattern

def markTest : CharTest := ⟨[.point tick.toNat], false, .exact⟩

def runTest : CharTest := ⟨[.point tick.toNat], true, .exact⟩

theorem markTest_accepts : markTest.accepts tick = true := by
  rw [markTest, accepts_point, beq_self_eq_true]
  rfl

theorem markTest_not_accepts (hc : c ≠ tick) : markTest.accepts c = false := by
  rw [markTest, accepts_point, beq_false_of_ne hc]
  rfl

theorem runTest_accepts (hc : c ≠ tick) : runTest.accepts c = true := by
  rw [runTest, accepts_point, beq_false_of_ne hc]
  rfl

theorem runTest_not_accepts : runTest.accepts tick = false := by
  rw [runTest, accepts_point, beq_self_eq_true]
  rfl

/-- A mark, a run of other characters, and a mark. -/
def code : Pattern where
  source := "`[^`]+`"
  regex := .seq (.char markTest) (.seq (oneOrMore runTest) (.char markTest))

theorem compile_code (characters : CharacterNames) :
    Pattern.compile characters "`[^`]+`" = .ok code := by
  cbv

theorem matchEnd?_code (s : Cursor) :
    code.regex.matchEnd? true s =
      ((Regex.char markTest).attempt s [] fun s g =>
        (oneOrMore runTest).attempt s g fun s g =>
          (Regex.char markTest).attempt s g fun s g => some (s, g)).map (·.1) := rfl

/-- The mark that closes code does not belong to the run before it. -/
theorem failsOn_runTest (k : Continue) :
    FailsOn runTest fun s g => (Regex.char markTest).attempt s g k := by
  intro before c rest offset g hc
  have hne : c ≠ tick := by
    rintro rfl
    rw [runTest_not_accepts] at hc
    cases hc
  exact attempt_char_of_not_accepts fun d hd => by cases hd; exact markTest_not_accepts hne

/-- Behind a mark and a run, only the next character decides: the run is taken whole, and no
shorter part of it has a mark behind it. -/
theorem matchEnd?_of_run (hne : run ≠ []) (hrun : tick ∉ run) (hrest : ∀ c ∈ rest.head?, c = tick) :
    code.regex.matchEnd? true ⟨before, tick :: (run ++ rest), offset⟩ =
      ((Regex.char markTest).attempt
        ⟨run.reverse ++ tick :: before, rest, offset + 1 + run.length⟩ []
          fun s g => some (s, g)).map (·.1) := by
  have hothers : ∀ c ∈ run, runTest.accepts c = true := by
    intro c hc
    refine runTest_accepts ?_
    rintro rfl
    exact hrun hc
  have hstop : ∀ c ∈ rest.head?, runTest.accepts c = false := by
    intro c hc
    rw [hrest c hc, runTest_not_accepts]
  rw [matchEnd?_code, attempt_char_of_accepts markTest_accepts,
    attempt_oneOrMore (failsOn_runTest _) hstop hothers hne]

theorem matchEnd?_of_opensCode (rest : List Char) (hne : run ≠ []) (hrun : tick ∉ run) :
    ∃ before' offset',
      code.regex.matchEnd? true ⟨before, tick :: (run ++ tick :: rest), offset⟩ =
        some ⟨before', rest, offset'⟩ := by
  refine ⟨tick :: (run.reverse ++ tick :: before), offset + 1 + run.length + 1, ?_⟩
  rw [matchEnd?_of_run hne hrun (fun c hc => by cases hc; rfl),
    attempt_char_of_accepts markTest_accepts]
  rfl

theorem matchEnd?_of_not_opensCode (h : ¬OpensCode cs) :
    code.regex.matchEnd? true ⟨before, tick :: cs, offset⟩ = none := by
  obtain ⟨run, rest, rfl, hrun, hrest, hshort⟩ := run_of_not_opensCode h
  by_cases hne : run = []
  · subst hne
    have hstop : ∀ c ∈ rest.head?, runTest.accepts c = false := by
      intro c hc
      rw [hrest c hc, runTest_not_accepts]
    rw [matchEnd?_code, attempt_char_of_accepts markTest_accepts, List.nil_append,
      attempt_oneOrMore_of_not_accepts hstop]
    rfl
  · obtain rfl := hshort.resolve_left hne
    rw [matchEnd?_of_run hne hrun hrest]
    rfl

theorem matchEnd?_of_ne (h : ∀ c ∈ cs.head?, c ≠ tick) :
    code.regex.matchEnd? true ⟨before, cs, offset⟩ = none := by
  rw [matchEnd?_code, attempt_char_of_not_accepts fun c hc => markTest_not_accepts (h c hc)]
  rfl

end Pattern

/-- **The pattern takes out code.** -/
theorem CodeCut.removeFrom_eq (h : CodeCut cs ds) : ∀ (before : List Char) (offset : Nat),
    Pattern.code.regex.removeFrom true ⟨before, cs, offset⟩ = ds := by
  induction h with
  | nil =>
      intro before offset
      exact removeFrom_nil (matchEnd?_of_ne nofun)
  | @code run cs ds hne hrun _ ih =>
      intro before offset
      obtain ⟨before', offset', hmatch⟩ := matchEnd?_of_opensCode cs hne hrun
      have hlt : cs.length < (tick :: (run ++ tick :: cs)).length := by
        simp only [List.length_cons, List.length_append]
        omega
      rw [removeFrom_of_match hmatch hlt, ih]
  | other hc _ ih =>
      intro before offset
      rw [removeFrom_cons (matchEnd?_of_ne fun d hd => by cases hd; exact hc), ih]
  | lone hcs _ ih =>
      intro before offset
      rw [removeFrom_cons (matchEnd?_of_not_opensCode hcs), ih]

theorem CodeCut.strip_eq {s : String} (h : CodeCut s.toList ds) :
    Pattern.code.strip s = String.ofList ds :=
  congrArg String.ofList (h.removeFrom_eq [] 0)

theorem CodeCut.unique {ds' : List Char} (h : CodeCut cs ds) (h' : CodeCut cs ds') : ds = ds' :=
  (h.removeFrom_eq [] 0).symm.trans (h'.removeFrom_eq [] 0)

/-! ## Which code goes -/

/-- Code in one run without a mark, or in several with two marks between neighbours. -/
inductive CodeRuns : List Char → Prop
  | run {run : List Char} (hne : run ≠ []) (hrun : tick ∉ run) : CodeRuns run
  | more {run rest : List Char} (hne : run ≠ []) (hrun : tick ∉ run) (h : CodeRuns rest) :
      CodeRuns (run ++ tick :: tick :: rest)

variable {code after : List Char}

theorem CodeRuns.cut (h : CodeRuns code) (hcs : CodeCut cs ds) :
    CodeCut (tick :: (code ++ tick :: cs)) ds := by
  induction h with
  | run hne hrun => exact .code hne hrun hcs
  | more hne hrun _ ih =>
      rw [List.append_assoc]
      exact .code hne hrun ih

/-- Two texts up to the same mark: the first mark of both stands behind the run. -/
theorem split_at_run (hrun : tick ∉ run) (h : run ++ tick :: rest = code ++ tick :: after) :
    (run = code ∧ rest = after)
      ∨ ∃ more, code = run ++ tick :: more ∧ rest = more ++ tick :: after := by
  rcases List.append_eq_append_iff.mp h with ⟨as, rfl, has⟩ | ⟨as, rfl, has⟩
  · cases as with
    | nil =>
        cases has
        exact Or.inl ⟨(List.append_nil run).symm, rfl⟩
    | cons c as =>
        cases has
        exact Or.inr ⟨as, rfl, rfl⟩
  · cases as with
    | nil =>
        cases has
        exact Or.inl ⟨List.append_nil code, rfl⟩
    | cons c as =>
        cases has
        exact absurd (List.mem_append_right _ (List.mem_cons_self ..)) hrun

/-- The last mark before a text without marks: it stays, or nothing behind it goes. -/
theorem CodeCut.tick_mem_or_append (hafter : tick ∉ after) (h : CodeCut cs ds) :
    ∀ code, cs = code ++ tick :: after → tick ∈ ds ∨ ∃ left, ds = left ++ after := by
  induction h with
  | nil =>
      intro code heq
      cases code <;> cases heq
  | @code run cs ds hne hrun h ih =>
      intro code heq
      cases code with
      | nil =>
          -- no second mark follows
          exact absurd ((List.cons.inj heq).2 ▸ List.mem_append_cons_self) hafter
      | cons c code =>
          rcases split_at_run hrun (List.cons.inj heq).2 with ⟨-, rfl⟩ | ⟨more, -, hmore⟩
          · have hstay : CodeCut (cs ++ []) (cs ++ []) := CodeCut.append hafter .nil
            rw [List.append_nil] at hstay
            exact Or.inr ⟨[], h.unique hstay⟩
          · exact ih more hmore
  | @other c cs ds hc h ih =>
      intro code heq
      cases code with
      | nil => exact absurd (List.cons.inj heq).1 hc
      | cons d code =>
          rcases ih code (List.cons.inj heq).2 with hmem | ⟨left, rfl⟩
          · exact Or.inl (List.mem_cons_of_mem _ hmem)
          · exact Or.inr ⟨c :: left, rfl⟩
  | lone => exact fun _ _ => Or.inl (List.mem_cons_self ..)

/-- Not all of a text up to its last mark goes if the text starts with that mark or with another
character. -/
theorem CodeCut.ne_of_last {more : List Char} (hds : tick ∉ ds)
    (hmore : ∀ c ∈ more.head?, c ≠ tick) (h : CodeCut cs ds) : cs ≠ more ++ tick :: ds := by
  intro heq
  cases h with
  | nil => exact List.append_ne_nil_of_right_ne_nil more (List.cons_ne_nil tick []) heq.symm
  | lone => exact hds (List.mem_cons_self ..)
  | @code run cs _ =>
      cases more with
      | nil => exact hds ((List.cons.inj heq).2 ▸ List.mem_append_cons_self)
      | cons c more => exact hmore c rfl (List.cons.inj heq).1.symm
  | @other c cs ds hc h =>
      cases more with
      | nil => exact hc (List.cons.inj heq).1
      | cons d more =>
          rcases h.tick_mem_or_append hds more (List.cons.inj heq).2 with hmem | ⟨left, hleft⟩
          · exact hds (List.mem_cons_of_mem c hmem)
          · -- more would be left of the text than there is
            have hlength := congrArg List.length hleft
            rw [List.length_append, List.length_cons] at hlength
            omega

/-- **No other code goes.** If code goes from before a text without marks, and nothing else
does, it is made of runs. -/
theorem CodeRuns.of_cut (hafter : tick ∉ after) (h : CodeCut cs after) :
    ∀ code, cs = tick :: (code ++ tick :: after) → CodeRuns code := by
  induction h with
  | nil => exact fun code heq => by cases heq
  | other hc => exact fun code heq => absurd (List.cons.inj heq).1 hc
  | lone => exact absurd (List.mem_cons_self ..) hafter
  | @code run rest after hne hrun h ih =>
      intro code heq
      rcases split_at_run hrun (List.cons.inj heq).2 with ⟨rfl, -⟩ | ⟨more, rfl, rfl⟩
      · exact .run hne hrun
      · rcases more with - | ⟨c, more⟩
        · have hne : tick :: after ≠ [] ++ tick :: after := h.ne_of_last hafter nofun
          exact absurd rfl hne
        · by_cases hc : c = tick
          · subst hc
            exact .more hne hrun (ih hafter more rfl)
          · exact absurd rfl (h.ne_of_last hafter fun d hd => by cases hd; exact hc)

end Headline
