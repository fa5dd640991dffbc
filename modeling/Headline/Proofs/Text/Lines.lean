import Headline.Text.Lines
import Mathlib.Data.List.Basic

/-!
# Two ways of cutting a text into lines

Markdown ends a line at a line feed, a carriage return, or both together (`Cut`). Of the other
characters that bound lines in Unicode it takes no notice, so they stand inside its lines. A text
that is cut at all boundaries falls into Markdown's lines, with each of these cut once more at
every boundary in it.

So the two ways agree as long as no such boundary has come (`Cut.take_splitLines`), and Markdown's
lines are found as many places further down as there are boundaries in the lines before them
(`Cut.slice_splitLines`). What a cut at all boundaries gives holds no boundary any more
(`plain_of_mem_splitLines`): a Markdown line that does is found at no place at all.
-/

namespace Headline.Text

/-! ## Markdown's lines, without a scan -/

/-- A text that holds no break of Markdown. -/
def Unbroken (l : List Char) : Prop := '\n' ∉ l ∧ '\r' ∉ l

/-- A break of Markdown, given what comes after it. -/
def IsBreak (brk rest : List Char) : Prop :=
  brk = ['\n'] ∨ brk = ['\r', '\n'] ∨ (brk = ['\r'] ∧ rest.head? ≠ some '\n')

/-- A text consists of lines, each ended by a break, but the last may lack one unless it is
empty. -/
inductive Cut : List Char → List (List Char) → Prop where
  | nil : Cut [] []
  | last {l : List Char} (hne : l ≠ []) (hl : Unbroken l) : Cut l [l]
  | line {l brk rest : List Char} {ls : List (List Char)} (hl : Unbroken l)
      (hbrk : IsBreak brk rest) (h : Cut rest ls) : Cut (l ++ (brk ++ rest)) (l :: ls)

theorem unbroken_nil : Unbroken [] := ⟨List.not_mem_nil, List.not_mem_nil⟩

theorem unbroken_cons {c : Char} {l : List Char} :
    Unbroken (c :: l) ↔ (c ≠ '\n' ∧ c ≠ '\r') ∧ Unbroken l := by
  simp only [Unbroken, List.mem_cons, not_or, ne_comm (a := c)]
  tauto

theorem Unbroken.concat {l : List Char} {c : Char} (h : Unbroken l) (hn : c ≠ '\n')
    (hr : c ≠ '\r') : Unbroken (l ++ [c]) := by
  simp only [Unbroken, List.mem_append, List.mem_singleton, not_or]
  exact ⟨⟨h.1, fun heq => hn heq.symm⟩, ⟨h.2, fun heq => hr heq.symm⟩⟩

theorem markdownLines_go_cons {c : Char} (hc : c ≠ '\n') (line cs : List Char) :
    markdownLines.go line (c :: cs) = markdownLines.go (c :: line) cs := by
  rw [markdownLines.go]
  exact hc

/-- The scan that finds the lines, with `line` open in front of what is left. -/
theorem cut_go (line cs : List Char) (hline : Unbroken line.reverse) :
    Cut (line.reverse ++ cs) (markdownLines.go line (normalizeBreaks cs)) := by
  induction cs using normalizeBreaks.induct generalizing line with
  | case1 =>
      rw [normalizeBreaks, markdownLines.go, List.append_nil]
      cases line with
      | nil => exact .nil
      | cons c line => exact .last (by simp) hline
  | case2 cs ih =>
      rw [normalizeBreaks, markdownLines.go]
      exact .line hline (Or.inr (Or.inl rfl)) (ih [] unbroken_nil)
  | case3 cs hcs ih =>
      have hnormal : normalizeBreaks ('\r' :: cs) = '\n' :: normalizeBreaks cs := by
        rw [normalizeBreaks]
        exact hcs
      have hhead : cs.head? ≠ some '\n' := by
        rintro hhead
        obtain ⟨rest, rfl⟩ := List.head?_eq_some_iff.mp hhead
        exact hcs rest rfl
      rw [hnormal, markdownLines.go]
      exact .line hline (Or.inr (Or.inr ⟨rfl, hhead⟩)) (ih [] unbroken_nil)
  | case4 c cs _ hr ih =>
      have hr : c ≠ '\r' := hr
      have hnormal : normalizeBreaks (c :: cs) = c :: normalizeBreaks cs := by
        rw [normalizeBreaks] <;> simp [hr]
      rw [hnormal]
      by_cases hn : c = '\n'
      · subst hn
        rw [markdownLines.go]
        exact .line hline (Or.inl rfl) (ih [] unbroken_nil)
      · rw [markdownLines_go_cons hn]
        have hopen : Unbroken (c :: line).reverse := by
          rw [List.reverse_cons]
          exact hline.concat hn hr
        have hrest := ih (c :: line) hopen
        rwa [List.reverse_cons, List.append_assoc] at hrest

/-- What Markdown counts are the lines of a text. -/
theorem cut_markdownLines (cs : List Char) : Cut cs (markdownLines cs) := cut_go [] cs unbroken_nil

/-! ## Cutting at all boundaries -/

/-- How many boundaries stand in lines. -/
def boundaries (ls : List (List Char)) : Nat := ls.flatten.countP isLineBoundary

/-- A line that is not cut any further. -/
def Plain (l : List Char) : Prop := ∀ c ∈ l, isLineBoundary c = false

theorem splitLines_go_cons {c : Char} {cs : List Char}
    (h : c = '\r' → cs.head? ≠ some '\n') (line : List Char) :
    splitLines.go line (c :: cs) =
      if isLineBoundary c then line.reverse :: splitLines.go [] cs
      else splitLines.go (c :: line) cs := by
  rw [splitLines.go]
  rintro rest rfl rfl
  exact h rfl rfl

/-- A break of Markdown is a cut. -/
theorem splitLines_go_break {brk rest : List Char} (h : IsBreak brk rest) (line : List Char) :
    splitLines.go line (brk ++ rest) = line.reverse :: splitLines.go [] rest := by
  rcases h with rfl | rfl | ⟨rfl, hrest⟩
  · have hne : '\n' ≠ '\r' := by decide
    rw [List.singleton_append, splitLines_go_cons fun h => absurd h hne, if_pos (by decide)]
  · rfl
  · rw [List.singleton_append, splitLines_go_cons (fun _ => hrest), if_pos (by decide)]

/-- The parts of a line that a break ends; `line` holds the characters of the open part, last
first. -/
def parts (line : List Char) : List Char → List (List Char)
  | [] => [line.reverse]
  | c :: cs => if isLineBoundary c then line.reverse :: parts [] cs else parts (c :: line) cs

theorem splitLines_go_line {l brk rest : List Char} (hl : Unbroken l) (hbrk : IsBreak brk rest)
    (line : List Char) :
    splitLines.go line (l ++ (brk ++ rest)) = parts line l ++ splitLines.go [] rest := by
  induction l generalizing line with
  | nil =>
      rw [List.nil_append, splitLines_go_break hbrk, parts]
      rfl
  | cons c l ih =>
      obtain ⟨⟨-, hr⟩, hl⟩ := unbroken_cons.mp hl
      rw [List.cons_append, splitLines_go_cons fun h => absurd h hr, parts]
      split
      · rw [ih hl, List.cons_append]
      · exact ih hl _

theorem splitLines_line {l brk rest : List Char} (hl : Unbroken l) (hbrk : IsBreak brk rest) :
    splitLines (l ++ (brk ++ rest)) = parts [] l ++ splitLines rest :=
  splitLines_go_line hl hbrk []

theorem length_parts (line l : List Char) :
    (parts line l).length = l.countP isLineBoundary + 1 := by
  induction l generalizing line with
  | nil => rfl
  | cons c l ih =>
      rw [parts, List.countP_cons]
      split
      · rw [List.length_cons, ih]
      · rw [ih, Nat.add_zero]

theorem parts_of_plain {l : List Char} (hl : Plain l) (line : List Char) :
    parts line l = [line.reverse ++ l] := by
  induction l generalizing line with
  | nil => rw [parts, List.append_nil]
  | cons c l ih =>
      obtain ⟨hc, hl⟩ := List.forall_mem_cons.mp hl
      rw [parts, if_neg (by rw [hc]; exact Bool.false_ne_true), ih hl, List.reverse_cons,
        List.append_assoc]
      rfl

/-- Without a break at its end a text does not have more parts than with one. -/
theorem length_splitLines_go_le {l : List Char} (hl : Unbroken l) (line : List Char) :
    (splitLines.go line l).length ≤ l.countP isLineBoundary + 1 := by
  induction l generalizing line with
  | nil =>
      rw [splitLines.go]
      split <;> simp
  | cons c l ih =>
      obtain ⟨⟨-, hr⟩, hl⟩ := unbroken_cons.mp hl
      rw [splitLines_go_cons fun h => absurd h hr, List.countP_cons]
      split
      · have hrest := ih hl []
        rw [List.length_cons]
        omega
      · exact ih hl _

theorem splitLines_go_plain {l : List Char} (hl : Plain l) (hu : Unbroken l) (line : List Char)
    (hne : line.reverse ++ l ≠ []) : splitLines.go line l = [line.reverse ++ l] := by
  induction l generalizing line with
  | nil =>
      rw [List.append_nil] at hne ⊢
      rw [splitLines.go, if_neg (by simpa using hne)]
  | cons c l ih =>
      obtain ⟨⟨-, hr⟩, hu⟩ := unbroken_cons.mp hu
      obtain ⟨hc, hl⟩ := List.forall_mem_cons.mp hl
      have hrest := ih hl hu (c :: line) (by simp)
      rw [splitLines_go_cons fun h => absurd h hr, if_neg (by rw [hc]; exact Bool.false_ne_true),
        hrest, List.reverse_cons, List.append_assoc]
      rfl

/-- No boundary is left in a part. -/
theorem plain_of_mem_splitLines_go {l : List Char} : ∀ {line cs : List Char}, Plain line →
    l ∈ splitLines.go line cs → Plain l := by
  intro line cs hline hmem
  induction line, cs using splitLines.go.induct with
  | case1 line hempty =>
      rw [splitLines.go, if_pos hempty] at hmem
      cases hmem
  | case2 line hempty =>
      rw [splitLines.go, if_neg hempty, List.mem_singleton] at hmem
      subst hmem
      exact fun c hc => hline c (List.mem_reverse.mp hc)
  | case3 line cs ih =>
      rw [splitLines.go, List.mem_cons] at hmem
      rcases hmem with rfl | hmem
      · exact fun c hc => hline c (List.mem_reverse.mp hc)
      · exact ih (List.forall_mem_nil _) hmem
  | case4 line c cs hcr hc ih =>
      rw [splitLines_go_cons (fun h hhead => ?_), if_pos hc, List.mem_cons] at hmem
      · rcases hmem with rfl | hmem
        · exact fun c hc => hline c (List.mem_reverse.mp hc)
        · exact ih (List.forall_mem_nil _) hmem
      · obtain ⟨rest, rfl⟩ := List.head?_eq_some_iff.mp hhead
        exact hcr rest h rfl
  | case5 line c cs hcr hc ih =>
      rw [splitLines_go_cons (fun h hhead => ?_), if_neg hc] at hmem
      · refine ih (List.forall_mem_cons.mpr ⟨by simpa using hc, hline⟩) hmem
      · obtain ⟨rest, rfl⟩ := List.head?_eq_some_iff.mp hhead
        exact hcr rest h rfl

theorem plain_of_mem_splitLines {l cs : List Char} (h : l ∈ splitLines cs) : Plain l :=
  plain_of_mem_splitLines_go (List.forall_mem_nil _) h

/-! ## One way against the other -/

namespace Cut

variable {cs : List Char} {ls : List (List Char)} (h : Cut cs ls)

include h

theorem unbroken {l : List Char} (hl : l ∈ ls) : Unbroken l := by
  induction h with
  | nil => cases hl
  | last hne hu =>
      rw [List.mem_singleton.mp hl]
      exact hu
  | line hu hbrk h ih =>
      rcases List.mem_cons.mp hl with rfl | hl
      · exact hu
      · exact ih hl

/-- As long as no boundary stands in a line, the lines are those of a cut at all boundaries. -/
theorem take_splitLines (n : Nat) (hplain : ∀ l ∈ ls.take n, Plain l) :
    (splitLines cs).take n = ls.take n := by
  induction h generalizing n with
  | nil => rfl
  | last hne hl =>
      cases n with
      | zero => rfl
      | succ n =>
          have hp := hplain _ (List.mem_cons_self ..)
          rw [splitLines, splitLines_go_plain hp hl [] hne]
          rfl
  | line hl hbrk h ih =>
      cases n with
      | zero => rfl
      | succ n =>
          rw [List.take_succ_cons] at hplain ⊢
          obtain ⟨hp, hplain⟩ := List.forall_mem_cons.mp hplain
          rw [splitLines_line hl hbrk, parts_of_plain hp, List.singleton_append,
            List.take_succ_cons, ih n hplain]
          rfl

/-- Behind the first lines, what is left of the text falls into the lines that are left, and
into the parts that are left behind the parts of these lines. -/
theorem drop_splitLines (n : Nat) :
    ∃ rest, Cut rest (ls.drop n) ∧
      splitLines rest = (splitLines cs).drop (n + boundaries (ls.take n)) := by
  induction h generalizing n with
  | nil =>
      refine ⟨[], ?_, ?_⟩
      · rw [List.drop_nil]
        exact .nil
      · exact (List.drop_nil ..).symm
  | @last l hne hl =>
      cases n with
      | zero => exact ⟨l, .last hne hl, rfl⟩
      | succ n =>
          -- nothing is left behind the last line, and it has no more parts than are dropped
          refine ⟨[], ?_, ?_⟩
          · rw [List.drop_succ_cons, List.drop_nil]
            exact .nil
          · have hle := length_splitLines_go_le hl []
            rw [List.drop_eq_nil_of_le]
            · rfl
            · rw [List.take_succ_cons, List.take_nil, boundaries, List.flatten_cons,
                List.flatten_nil, List.append_nil, splitLines]
              omega
  | @line l brk rest ls hl hbrk h ih =>
      cases n with
      | zero => exact ⟨l ++ (brk ++ rest), .line hl hbrk h, rfl⟩
      | succ n =>
          obtain ⟨rest', hcut, hlines⟩ := ih n
          refine ⟨rest', hcut, ?_⟩
          have hplaces : n + 1 + boundaries (l :: ls.take n) =
              (parts [] l).length + (n + boundaries (ls.take n)) := by
            rw [boundaries, List.flatten_cons, List.countP_append, length_parts, boundaries]
            omega
          rw [hlines, List.take_succ_cons, hplaces, splitLines_line hl hbrk, List.drop_append,
            List.drop_eq_nil_of_le (Nat.le_add_right _ _), List.nil_append, Nat.add_sub_cancel_left]

/-- **Where lines are found.** Lines without a boundary stand as many places further down in a
cut at all boundaries as there are boundaries in the lines before them. -/
theorem slice_splitLines (first last : Nat)
    (hplain : ∀ l ∈ (ls.take last).drop first, Plain l) :
    ((splitLines cs).take (last + boundaries (ls.take first))).drop
        (first + boundaries (ls.take first)) =
      (ls.take last).drop first := by
  obtain ⟨rest, hcut, hlines⟩ := h.drop_splitLines first
  rw [List.drop_take] at hplain
  have htake := hcut.take_splitLines (last - first) hplain
  rw [List.drop_take, List.drop_take, ← hlines, Nat.add_sub_add_right, htake]

end Cut

end Headline.Text
