import Headline.Document.Tree
import Mathlib.Data.List.Basic
import Mathlib.Data.List.Induction
import Mathlib.Data.List.Infix

/-!
# Openings that enclose a token

An opening encloses what stands between it and its closing. Which closing that is, is a matter of
counting: the depth at a place of a run of tokens is the number of openings before it less that
of closings, and an opening is still open as long as the depth is greater than it was before the
opening (`OpenAt`).

In a run that at no place has closed more than it had opened, the openings that are still open
form a stack: a new opening comes on top (`opens_concat_opening`), a closing takes the top away
(`opens_concat_closing`), and any other token leaves it (`opens_concat_other`). What makes the
closing take one opening and no more is that the depths before the open ones are all the numbers
below the present depth, each once (`depths_opens`).

Tokens that become blocks are counted, and the open ones among them are what a new block stands
in (`around`). The open ones with these numbers, or without a number if they are only counted,
are again a stack (`stack`).
-/

namespace Headline

namespace Token

def isOpening (t : Token) : Bool := t.nesting == 1

def isClosing (t : Token) : Bool := t.nesting == -1

/-- Whether a token gives its text to the block around it. -/
def isInline (t : Token) : Bool := !t.isOpening && !t.isClosing && t.name == "inline"

/-- The kind of the block that a token becomes, if it becomes one. -/
def blockKind? (t : Token) : Option BlockKind :=
  if t.isOpening then Tree.containerKind? t.name
  else if t.isClosing then none
  else Tree.leafKind? t.name

def isBlock (t : Token) : Bool := t.blockKind?.isSome

/-- The line on which a token starts, counted from one; the first line if it has none. -/
def line (t : Token) : Int :=
  match t.span with
  | some (first, _) => first + 1
  | none => 1

/-- The number in the tag of a heading, behind its first letter. -/
def depthOfTag (t : Token) : Except Text.NumeralFault Int :=
  Text.readInt 10 (String.ofList (t.tag.toList.drop 1))

/-- The level of the block of a token: the depth of a heading, and 0 for other blocks. -/
def level (t : Token) (kind : BlockKind) : Int :=
  if kind = .heading then t.depthOfTag.toOption.getD 0 else 0

theorem isClosing_eq_false {t : Token} (h : t.isOpening = true) : t.isClosing = false := by
  simp only [isOpening, isClosing, beq_iff_eq, beq_eq_false_iff_ne] at *
  omega

theorem isOpening_eq_false {t : Token} (h : t.isClosing = true) : t.isOpening = false := by
  simp only [isOpening, isClosing, beq_iff_eq, beq_eq_false_iff_ne] at *
  omega

end Token

namespace Nesting

/-! ## Depth -/

/-- How many openings of a run of tokens have not been closed, if none was closed twice. -/
def depth (ts : List Token) : Int := ts.countP Token.isOpening - ts.countP Token.isClosing

/-- At no place there are more closings than openings before it. -/
def NeverOverclosed (ts : List Token) : Prop :=
  ∀ before, before <+: ts → before.countP Token.isClosing ≤ before.countP Token.isOpening

instance (ts : List Token) : Decidable (NeverOverclosed ts) :=
  decidable_of_iff
    (∀ before ∈ ts.inits, before.countP Token.isClosing ≤ before.countP Token.isOpening)
    (by simp only [List.mem_inits, NeverOverclosed])

variable {ts rest : List Token} {t : Token} {q p : Nat}

theorem depth_concat_opening (h : t.isOpening = true) : depth (ts ++ [t]) = depth ts + 1 := by
  simp [depth, h, Token.isClosing_eq_false h]
  omega

theorem depth_concat_closing (h : t.isClosing = true) : depth (ts ++ [t]) = depth ts - 1 := by
  simp [depth, h, Token.isOpening_eq_false h]
  omega

theorem depth_concat_other (hopen : t.isOpening = false) (hclose : t.isClosing = false) :
    depth (ts ++ [t]) = depth ts := by
  simp [depth, hopen, hclose]

theorem NeverOverclosed.of_append (h : NeverOverclosed (ts ++ rest)) : NeverOverclosed ts :=
  fun before hbefore => h before (hbefore.trans (List.prefix_append ts rest))

theorem NeverOverclosed.depth_nonneg (h : NeverOverclosed ts) : 0 ≤ depth ts := by
  have hcount := h ts (List.prefix_refl ts)
  simp only [depth]
  omega

/-! ## Open ones -/

/-- There is an opening at `q` that is still open just before `p`: since then, the depth has
always been greater than it was before the opening. -/
def OpenAt (ts : List Token) (q p : Nat) : Prop :=
  q < p ∧ (ts[q]?.any Token.isOpening) = true
    ∧ ∀ r, r ≤ p → q < r → depth (ts.take q) < depth (ts.take r)

instance (ts : List Token) (q p : Nat) : Decidable (OpenAt ts q p) :=
  inferInstanceAs (Decidable (_ ∧ _ ∧ _))

/-- The openings that are open before `p`, the last one first. -/
def opensBefore (ts : List Token) (p : Nat) : List Nat :=
  (List.range p).reverse.filter fun q => decide (OpenAt ts q p)

/-- The openings that are open at the end. -/
def opens (ts : List Token) : List Nat := opensBefore ts ts.length

/-- What comes later does not matter. -/
theorem openAt_append (hp : p ≤ ts.length) : OpenAt (ts ++ rest) q p ↔ OpenAt ts q p := by
  refine and_congr_right fun hq => and_congr ?_ ?_
  · rw [List.getElem?_append_left (by omega)]
  · refine forall₂_congr fun r hr => ?_
    rw [List.take_append_of_le_length (by omega), List.take_append_of_le_length (by omega)]

theorem opensBefore_append (hp : p ≤ ts.length) :
    opensBefore (ts ++ rest) p = opensBefore ts p := by
  simp only [opensBefore, openAt_append hp]

theorem OpenAt.depth_lt (h : OpenAt ts q ts.length) : depth (ts.take q) < depth ts := by
  have hall := h.2.2 ts.length (Nat.le_refl _) h.1
  rwa [List.take_length] at hall

theorem mem_opens : q ∈ opens ts ↔ OpenAt ts q ts.length := by
  simp only [opens, opensBefore, List.mem_filter, List.mem_reverse, List.mem_range,
    decide_eq_true_eq]
  exact and_iff_right_of_imp fun h => h.1

/-- Before the next token, an opening has to be open still, and above that token's depth. -/
theorem openAt_concat (hq : q < ts.length) :
    OpenAt (ts ++ [t]) q (ts.length + 1) ↔
      OpenAt ts q ts.length ∧ depth (ts.take q) < depth (ts ++ [t]) := by
  have htake : (ts ++ [t]).take q = ts.take q := List.take_append_of_le_length (by omega)
  have hall : (ts ++ [t]).take (ts.length + 1) = ts ++ [t] := List.take_of_length_le (by simp)
  have hbefore : OpenAt (ts ++ [t]) q ts.length ↔ OpenAt ts q ts.length :=
    openAt_append (Nat.le_refl _)
  rw [← hbefore]
  constructor
  · rintro ⟨-, hopening, hdepth⟩
    have hlast := hdepth (ts.length + 1) (Nat.le_refl _) (by omega)
    rw [htake, hall] at hlast
    exact ⟨⟨hq, hopening, fun r hr => hdepth r (by omega)⟩, hlast⟩
  · rintro ⟨⟨-, hopening, hdepth⟩, hlast⟩
    refine ⟨by omega, hopening, fun r hr hqr => ?_⟩
    rcases Nat.lt_or_eq_of_le hr with hr | rfl
    · exact hdepth r (by omega) hqr
    · rwa [htake, hall]

theorem openAt_last : OpenAt (ts ++ [t]) ts.length (ts.length + 1) ↔ t.isOpening = true := by
  have hall : (ts ++ [t]).take (ts.length + 1) = ts ++ [t] := List.take_of_length_le (by simp)
  constructor
  · rintro ⟨-, hopening, -⟩
    simpa using hopening
  · intro h
    refine ⟨by omega, by simpa using h, fun r hr hlt => ?_⟩
    obtain rfl : r = ts.length + 1 := by omega
    rw [hall, List.take_left', depth_concat_opening h]
    · omega
    · rfl

/-- The last opening, and those of before that the last token has not closed. -/
theorem opens_concat :
    opens (ts ++ [t]) = (if t.isOpening then [ts.length] else []) ++
      (opens ts).filter fun q => decide (depth (ts.take q) < depth (ts ++ [t])) := by
  have hrest : (List.range ts.length).reverse.filter
        (fun q => decide (OpenAt (ts ++ [t]) q (ts.length + 1))) =
      (opens ts).filter fun q => decide (depth (ts.take q) < depth (ts ++ [t])) := by
    rw [opens, opensBefore, List.filter_filter]
    refine List.filter_congr fun q hq => ?_
    have hlt : q < ts.length := by simpa using hq
    rw [decide_eq_decide.mpr (openAt_concat hlt), Bool.decide_and, Bool.and_comm]
  rw [opens, opensBefore, List.length_append, List.length_singleton, List.range_succ,
    List.reverse_append, List.reverse_singleton, List.filter_append, hrest]
  congr 1
  simp [openAt_last, List.filter_cons]

theorem filter_opens_of_le (h : depth ts ≤ depth (ts ++ [t])) :
    (opens ts).filter (fun q => decide (depth (ts.take q) < depth (ts ++ [t]))) = opens ts := by
  refine List.filter_eq_self.mpr fun q hq => decide_eq_true ?_
  have hlt := (mem_opens.mp hq).depth_lt
  omega

theorem opens_concat_opening (h : t.isOpening = true) :
    opens (ts ++ [t]) = ts.length :: opens ts := by
  have hle : depth ts ≤ depth (ts ++ [t]) := by
    rw [depth_concat_opening h]
    omega
  rw [opens_concat, if_pos h, filter_opens_of_le hle]
  rfl

theorem opens_concat_other (hopen : t.isOpening = false) (hclose : t.isClosing = false) :
    opens (ts ++ [t]) = opens ts := by
  have hle : depth ts ≤ depth (ts ++ [t]) := Int.le_of_eq (depth_concat_other hopen hclose).symm
  rw [opens_concat, filter_opens_of_le hle, hopen]
  rfl

/-- The numbers below a number, the greatest first. -/
def below : Nat → List Int
  | 0 => []
  | n + 1 => n :: below n

theorem lt_of_mem_below {n : Nat} {d : Int} (h : d ∈ below n) : d < n := by
  induction n with
  | zero => cases h
  | succ n ih =>
      rcases List.mem_cons.mp h with rfl | h
      · omega
      · have := ih h
        omega

/-- A closing takes the last one away, given the depths before the open ones. -/
theorem opens_concat_closing_of_depths (h : t.isClosing = true)
    (hdepths : (opens ts).map (fun q => depth (ts.take q)) = below (depth ts).toNat) :
    opens (ts ++ [t]) = (opens ts).tail := by
  rw [opens_concat, Token.isOpening_eq_false h, depth_concat_closing h]
  cases hn : (depth ts).toNat with
  | zero =>
      rw [hn, below, List.map_eq_nil_iff] at hdepths
      simp [hdepths]
  | succ n =>
      rw [hn, below] at hdepths
      obtain ⟨q, qs, hqs, hq, hrest⟩ := List.map_eq_cons_iff.mp hdepths
      have hkeep : ∀ q' ∈ qs, depth (ts.take q') < depth ts - 1 := by
        intro q' hq'
        have hmem : depth (ts.take q') ∈ below n := by
          rw [← hrest]
          exact List.mem_map_of_mem hq'
        have := lt_of_mem_below hmem
        omega
      have hdrop : ¬depth (ts.take q) < depth ts - 1 := by omega
      rw [hqs, List.filter_cons_of_neg (by simpa using hdrop), List.tail_cons,
        List.filter_eq_self.mpr fun q' hq' => decide_eq_true (hkeep q' hq')]
      rfl

/-- The depths before the open ones are all the numbers below the present depth. -/
theorem depths_opens (h : NeverOverclosed ts) :
    (opens ts).map (fun q => depth (ts.take q)) = below (depth ts).toNat := by
  induction ts using List.reverseRecOn with
  | nil => rfl
  | append_singleton ts t ih =>
      have hts := h.of_append
      have hdepth := hts.depth_nonneg
      have ih := ih hts
      -- the openings before the last token lie in what is kept of the run
      have htake : ∀ qs : List Nat, (∀ q ∈ qs, q ∈ opens ts) →
          qs.map (fun q => depth ((ts ++ [t]).take q)) = qs.map fun q => depth (ts.take q) := by
        intro qs hqs
        refine List.map_congr_left fun q hq => ?_
        rw [List.take_append_of_le_length (Nat.le_of_lt (mem_opens.mp (hqs q hq)).1)]
      cases hopen : t.isOpening with
      | true =>
          have hsucc : (depth ts + 1).toNat = (depth ts).toNat + 1 := by omega
          rw [opens_concat_opening hopen, depth_concat_opening hopen, List.map_cons,
            htake _ fun q hq => hq, ih, hsucc, below, List.take_left' rfl]
          congr 1
          omega
      | false =>
          cases hclose : t.isClosing with
          | true =>
              have hlast := h.depth_nonneg
              rw [depth_concat_closing hclose] at hlast
              have hsucc : (depth ts).toNat = (depth ts - 1).toNat + 1 := by omega
              rw [opens_concat_closing_of_depths hclose ih, depth_concat_closing hclose,
                htake _ fun q hq => List.mem_of_mem_tail hq, List.map_tail, ih, hsucc, below]
              rfl
          | false =>
              rw [opens_concat_other hopen hclose, depth_concat_other hopen hclose,
                htake _ fun q hq => hq, ih]

theorem opens_concat_closing (hts : NeverOverclosed ts) (h : t.isClosing = true) :
    opens (ts ++ [t]) = (opens ts).tail :=
  opens_concat_closing_of_depths h (depths_opens hts)

theorem opens_ne_nil (h : NeverOverclosed (ts ++ [t])) (hclose : t.isClosing = true) :
    opens ts ≠ [] := by
  intro hnil
  have hdepths := depths_opens h.of_append
  have hlast := h.depth_nonneg
  rw [depth_concat_closing hclose] at hlast
  have hsucc : (depth ts).toNat = (depth ts - 1).toNat + 1 := by omega
  rw [hnil, List.map_nil, hsucc] at hdepths
  cases hdepths

/-! ## Blocks -/

/-- How many tokens become blocks. A block is counted by the number of those before it. -/
def blockCount (ts : List Token) : Nat := ts.countP Token.isBlock

/-- The number of the block that the token at a place becomes, if it becomes one. -/
def number? (ts : List Token) (q : Nat) : Option Nat :=
  if ts[q]?.any Token.isBlock then some (blockCount (ts.take q)) else none

/-- The numbers of the blocks around a place, innermost first: those of the openings that are
open there and become blocks. -/
def around (ts : List Token) (p : Nat) : List Nat := (opensBefore ts p).filterMap (number? ts)

/-- What is open at the end, each with the number of its block if it has become one. -/
def stack (ts : List Token) : List (Option Nat) := (opens ts).map (number? ts)

theorem number?_append (hq : q < ts.length) : number? (ts ++ rest) q = number? ts q := by
  rw [number?, List.getElem?_append_left hq, List.take_append_of_le_length (by omega), number?]

theorem number?_last :
    number? (ts ++ [t]) ts.length = if t.isBlock then some (blockCount ts) else none := by
  simp [number?]

theorem around_append (hp : p ≤ ts.length) : around (ts ++ rest) p = around ts p := by
  rw [around, opensBefore_append hp, around]
  refine List.filterMap_congr fun q hq => number?_append ?_
  have hlt : q < p := by simpa using (List.mem_filter.mp hq).1
  omega

/-- What is around the end is what stands in the stack. -/
theorem around_length : around ts ts.length = (stack ts).filterMap id := by
  rw [stack, List.filterMap_map]
  rfl

theorem map_number?_append (qs : List Nat) (hqs : ∀ q ∈ qs, q ∈ opens ts) :
    qs.map (number? (ts ++ rest)) = qs.map (number? ts) :=
  List.map_congr_left fun q hq => number?_append (mem_opens.mp (hqs q hq)).1

theorem stack_concat_opening (h : t.isOpening = true) :
    stack (ts ++ [t]) = (if t.isBlock then some (blockCount ts) else none) :: stack ts := by
  rw [stack, opens_concat_opening h, List.map_cons, number?_last,
    map_number?_append _ fun q hq => hq, stack]

theorem stack_concat_other (hopen : t.isOpening = false) (hclose : t.isClosing = false) :
    stack (ts ++ [t]) = stack ts := by
  rw [stack, opens_concat_other hopen hclose, map_number?_append _ fun q hq => hq, stack]

theorem stack_concat_closing (hts : NeverOverclosed ts) (h : t.isClosing = true) :
    stack (ts ++ [t]) = (stack ts).tail := by
  rw [stack, opens_concat_closing hts h, map_number?_append _ fun q => List.mem_of_mem_tail,
    List.map_tail, stack]

/-- Where a closing may stand, something is open. -/
theorem stack_ne_nil (h : NeverOverclosed (ts ++ [t])) (hclose : t.isClosing = true) :
    stack ts ≠ [] := by
  rw [stack, Ne, List.map_eq_nil_iff]
  exact opens_ne_nil h hclose

end Nesting

end Headline
