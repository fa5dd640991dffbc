import Headline.Document.Tree
import Headline.Proofs.Document.Outline

/-!
# The outline of open blocks

While a tree is built, its blocks are spread over the open ones: each holds the children that
are finished, and the next one stands behind them. The outline of the tree can be read off at any
time (`sketch`), and it is what the outline will be when all open blocks are finished
(`outline_closeAll`).

Since it goes from the document inwards, what happens to the innermost block happens at its end:
a new child is added there (`sketch_add`), and when the block is finished nothing changes but
what is open (`sketch_leave`).
-/

namespace Headline.Tree

open Block

/-- The outline of the children that a frame has so far. -/
def Frame.below (f : Frame) (around : List Nat) (next : Nat) : List Place :=
  (outlineAll around next f.block.children.reverse).map place

/-- The outline of all that was built so far, and the numbers of the open blocks, innermost
first. The document has no number. -/
def sketch (f : Frame) : List Frame → List Place × List Nat
  | [] => (f.below [] 0, [])
  | g :: outer =>
    let (before, around) := sketch g outer
    let here := before.length :: around
    (before ++ ⟨f.block.kind, f.block.line, f.block.level, around⟩
      :: f.below here (before.length + 1), here)

/-- What is open around the children of a block that stands in the given ones. -/
def outerMarks : List Frame → List (Option Nat)
  | [] => []
  | g :: outer =>
    some (sketch g outer).1.length :: (List.replicate g.counted none ++ outerMarks outer)

/-- What is open: the numbers of blocks, and between them nothing for each opening that is only
counted. -/
def marks (f : Frame) (outer : List Frame) : List (Option Nat) :=
  List.replicate f.counted none ++ outerMarks outer

/-- The block is none of the spans, and its children fit in. -/
def Frame.Sound (f : Frame) : Prop :=
  f.block.isSpan = false ∧ ∀ c ∈ f.block.children, c.FitsIn f.block.kind ∧ c.Tidy

variable {f g : Frame} {outer : List Frame} {around : List Nat} {next : Nat} {b child : Block}

theorem sketch_cons : sketch f (g :: outer) =
    ((sketch g outer).1 ++ ⟨f.block.kind, f.block.line, f.block.level, (sketch g outer).2⟩
      :: f.below ((sketch g outer).1.length :: (sketch g outer).2) ((sketch g outer).1.length + 1),
    (sketch g outer).1.length :: (sketch g outer).2) := rfl

/-! ## Changes of the innermost block -/

theorem sketch_congr (hkind : f.block.kind = g.block.kind) (hline : f.block.line = g.block.line)
    (hlevel : f.block.level = g.block.level)
    (hbelow : ∀ around next, f.below around next = g.below around next) :
    sketch f outer = sketch g outer := by
  cases outer with
  | nil => simp only [sketch, hbelow]
  | cons h outer => simp only [sketch, hkind, hline, hlevel, hbelow]

theorem below_add (h : child.isSpan = false) :
    (f.add child).below around next =
      f.below around next ++ ⟨child.kind, child.line, child.level, around⟩
        :: (outlineFrom ((next + (f.below around next).length) :: around)
          (next + (f.below around next).length + 1) child).map place := by
  simp only [Frame.below, Frame.add, List.reverse_cons, outlineAll_append,
    outlineAll_singleton h, List.map_append, List.map_cons, List.length_map]
  rfl

/-- A new child comes last, with what is below it. -/
theorem sketch_add (h : child.isSpan = false) :
    sketch (f.add child) outer =
      ((sketch f outer).1 ++ ⟨child.kind, child.line, child.level, (sketch f outer).2⟩
        :: (outlineFrom ((sketch f outer).1.length :: (sketch f outer).2)
          ((sketch f outer).1.length + 1) child).map place, (sketch f outer).2) := by
  cases outer with
  | nil => simp only [sketch, below_add h, Nat.zero_add]
  | cons g outer =>
      have hlength : (sketch f (g :: outer)).1.length =
          (sketch g outer).1.length + 1
            + (f.below ((sketch g outer).1.length :: (sketch g outer).2)
              ((sketch g outer).1.length + 1)).length := by
        simp only [sketch_cons, List.length_append, List.length_cons]
        omega
      rw [hlength, sketch_cons, below_add h, sketch_cons, List.append_assoc]
      rfl

theorem outlineFrom_turned : outlineFrom around next (turned b) =
    outlineAll around next b.children.reverse := by
  rw [outlineFrom_eq, turned]

/-- To finish a block does not change the outline. -/
theorem sketch_leave (h : f.block.isSpan = false) :
    sketch (g.add (turned f.block)) outer = ((sketch f (g :: outer)).1, (sketch g outer).2) := by
  have hturned : (turned f.block).isSpan = false := h
  rw [sketch_add hturned, outlineFrom_turned]
  rfl

/-- Open blocks are what is marked, less what is only counted. -/
theorem filterMap_marks (f : Frame) (outer : List Frame) :
    (marks f outer).filterMap id = (sketch f outer).2 := by
  rw [marks, List.filterMap_append, List.filterMap_replicate_of_none rfl, List.nil_append]
  induction outer generalizing f with
  | nil => rfl
  | cons g outer ih =>
      have hhead : (outerMarks (g :: outer)).filterMap id = (sketch g outer).1.length
          :: (List.replicate g.counted none ++ outerMarks outer).filterMap id := rfl
      rw [hhead, List.filterMap_append, List.filterMap_replicate_of_none rfl, List.nil_append, ih g]
      rfl

/-! ## Finished blocks -/

theorem Frame.Sound.turned (h : f.Sound) : (turned f.block).Tidy := by
  rw [tidy_iff]
  intro c hc
  exact h.2 c (List.mem_reverse.mp hc)

theorem Frame.Sound.add (hf : f.Sound) (hkind : f.block.kind ≠ .heading)
    (hchild : child.isSpan = false) (htidy : child.Tidy) : (f.add child).Sound := by
  refine ⟨hf.1, fun c hc => ?_⟩
  rcases List.mem_cons.mp hc with rfl | hc
  · refine ⟨⟨?_, fun hspan => ?_⟩, htidy⟩
    · rw [hchild]
      exact (beq_eq_false_iff_ne.mpr hkind).symm
    · rw [hchild] at hspan
      cases hspan
  · exact hf.2 c hc

/-- All frames are sound, and only the innermost block can be a heading. -/
def AllSound (f : Frame) (outer : List Frame) : Prop :=
  f.Sound ∧ ∀ g ∈ outer, g.Sound ∧ g.block.kind ≠ .heading

theorem AllSound.leave (h : AllSound f (g :: outer)) : AllSound (g.add (turned f.block)) outer := by
  obtain ⟨hf, houter⟩ := h
  obtain ⟨⟨hg, hkind⟩, hrest⟩ := List.forall_mem_cons.mp houter
  exact ⟨hg.add hkind hf.1 hf.turned, hrest⟩

theorem outline_closeAll (h : AllSound f outer) :
    (closeAll f outer).outline.map place = (sketch f outer).1 := by
  induction outer generalizing f with
  | nil =>
      rw [closeAll, outline, outlineFrom_turned]
      rfl
  | cons g outer ih => rw [closeAll, ih h.leave, sketch_leave h.1.1]

theorem tidy_closeAll (h : AllSound f outer) : (closeAll f outer).Tidy := by
  induction outer generalizing f with
  | nil => exact h.1.turned
  | cons g outer ih => exact ih h.leave

end Headline.Tree
