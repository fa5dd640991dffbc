import Headline.Pattern.Match

/-!
# Removing matches step by step

To remove the matches of a pattern is to go through a text from left to right: where a match of
something starts it is skipped, and elsewhere one character is copied. Each of these steps is an
equation here. What a pattern matches at a place is put together in the same way, part by part,
from single characters and runs of characters of one class.

Such a run is made as long as it can be, and shorter ones are tried when what follows fails. If
what follows fails before every character of the class, the shorter ones fail too, and there is
one way to match (`greedyRounds_char`).
-/

namespace Headline.Pattern

variable {t : CharTest} {r : Regex} {k : Continue} {g : Captures} {c d : Char}
  {before rest run : List Char} {offset : Nat}

/-! ## One character -/

theorem accepts_point (negated : Bool) :
    (CharTest.mk [.point d.toNat] negated .exact).accepts c = ((c == d) != negated) := by
  have hsame : decide (c.toNat = d.toNat) = (c == d) := by
    rw [Bool.eq_iff_iff, decide_eq_true_eq, beq_iff_eq, Char.toNat_inj]
  have hcovers : SetItem.covers .exact (Fold.exact.apply c.toNat) (.point d.toNat) = (c == d) := by
    rw [SetItem.covers, ← hsame]
    split
    next => simp [Fold.equals, Fold.apply, eq_comm]
    next => rfl
  rw [CharTest.accepts, List.any_cons, List.any_nil, Bool.or_false, hcovers]

theorem attempt_char_of_accepts (h : t.accepts c = true) :
    (Regex.char t).attempt ⟨before, c :: rest, offset⟩ g k =
      k ⟨c :: before, rest, offset + 1⟩ g := by
  show (if t.accepts c = true then k ⟨c :: before, rest, offset + 1⟩ g else none) = _
  rw [if_pos h]

theorem attempt_char_of_not_accepts (h : ∀ c ∈ rest.head?, t.accepts c = false) :
    (Regex.char t).attempt ⟨before, rest, offset⟩ g k = none := by
  cases rest with
  | nil => rfl
  | cons c cs =>
      show (if t.accepts c = true then k ⟨c :: before, cs, offset + 1⟩ g else none) = _
      rw [h c rfl, if_neg Bool.false_ne_true]

/-! ## Runs of one class -/

/-- The continuation fails before every character of a class. -/
def FailsOn (t : CharTest) (k : Continue) : Prop :=
  ∀ before c rest offset g, t.accepts c = true → k ⟨before, c :: rest, offset⟩ g = none

theorem orTry_none (a : Found) : orTry a (fun _ => none) = a := by
  cases a <;> rfl

/-- Rounds over a class go to the end of the run, and nowhere else. -/
theorem greedyRounds_char (hk : FailsOn t k) (hrest : ∀ c ∈ rest.head?, t.accepts c = false) :
    ∀ (fuel : Nat) (run before : List Char) (offset : Nat) (last : Option Nat),
      (∀ c ∈ run, t.accepts c = true) → run.length < fuel → last ≠ some offset →
      greedyRounds (Regex.char t).attempt fuel none last ⟨before, run ++ rest, offset⟩ g k =
        k ⟨run.reverse ++ before, rest, offset + run.length⟩ g
  | fuel + 1, run, before, offset, last, hrun, hfuel, hlast => by
      have hstop : ¬((none : Option Nat) = some 0 ∨ last = some offset) :=
        fun h => h.elim nofun hlast
      rw [greedyRounds]
      simp only [Bool.or_eq_true, decide_eq_true_eq]
      rw [if_neg hstop]
      cases run with
      | nil =>
          rw [List.nil_append, attempt_char_of_not_accepts hrest]
          rfl
      | cons c run =>
          obtain ⟨hc, hrun⟩ := List.forall_mem_cons.mp hrun
          have hmoved : some offset ≠ some (offset + 1) := by simp
          rw [List.cons_append, attempt_char_of_accepts hc, hk _ c _ _ _ hc, orTry_none,
            Option.map_none,
            greedyRounds_char hk hrest fuel run (c :: before) (offset + 1) (some offset) hrun
              (Nat.lt_of_succ_lt_succ hfuel) hmoved,
            List.reverse_cons, List.append_assoc, List.length_cons, Nat.add_assoc,
            Nat.add_comm 1]
          rfl

/-- At least one round over a class. -/
def oneOrMore (t : CharTest) : Regex := .rounds .greedy 1 none (.char t)

theorem attempt_oneOrMore_eq (t : CharTest) (s : Cursor) (g : Captures) (k : Continue) :
    (oneOrMore t).attempt s g k = (Regex.char t).attempt s g fun s g =>
      greedyRounds (Regex.char t).attempt (s.rest.length + 2) none none s g k := rfl

theorem attempt_oneOrMore (hk : FailsOn t k) (hrest : ∀ c ∈ rest.head?, t.accepts c = false)
    (hrun : ∀ c ∈ run, t.accepts c = true) (hne : run ≠ []) :
    (oneOrMore t).attempt ⟨before, run ++ rest, offset⟩ g k =
      k ⟨run.reverse ++ before, rest, offset + run.length⟩ g := by
  obtain ⟨c, cs, rfl⟩ := List.exists_cons_of_ne_nil hne
  obtain ⟨hc, hcs⟩ := List.forall_mem_cons.mp hrun
  have hfuel : cs.length < (cs ++ rest).length + 2 := by
    rw [List.length_append]
    omega
  rw [attempt_oneOrMore_eq, List.cons_append, attempt_char_of_accepts hc,
    greedyRounds_char hk hrest _ cs (c :: before) (offset + 1) none hcs hfuel nofun,
    List.reverse_cons, List.append_assoc, List.length_cons, Nat.add_assoc, Nat.add_comm 1]
  rfl

theorem attempt_oneOrMore_of_not_accepts (h : ∀ c ∈ rest.head?, t.accepts c = false) :
    (oneOrMore t).attempt ⟨before, rest, offset⟩ g k = none := by
  rw [attempt_oneOrMore_eq]
  exact attempt_char_of_not_accepts h

/-! ## Removal -/

/-- A match of something is skipped. -/
theorem removeFrom_of_match {s e : Cursor} (h : r.matchEnd? true s = some e)
    (hlt : e.rest.length < s.rest.length) : r.removeFrom true s = r.removeFrom true e := by
  rw [Regex.removeFrom.eq_def, h]
  exact if_pos hlt

/-- Where no match starts, a character is copied. -/
theorem removeFrom_cons (h : r.matchEnd? true ⟨before, c :: rest, offset⟩ = none) :
    r.removeFrom true ⟨before, c :: rest, offset⟩ =
      c :: r.removeFrom true ⟨c :: before, rest, offset + 1⟩ := by
  rw [Regex.removeFrom, h]

theorem removeFrom_nil (h : r.matchEnd? true ⟨before, [], offset⟩ = none) :
    r.removeFrom true ⟨before, [], offset⟩ = [] := by
  rw [Regex.removeFrom, h]

end Headline.Pattern
