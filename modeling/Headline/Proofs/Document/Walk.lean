import Headline.Document.Block

/-!
# Walks through a tree

The walk that looks for one kind stops at the same blocks, in the same order, as the walk
that stops everywhere: looking for a kind means to leave out all others at the end, not to
pass over what is below them.
-/

namespace Headline.Block

theorem walkAll_none : ∀ bs : List Block,
    walkAll none bs = bs.flatMap fun b => b :: b.walk none
  | [] => by rw [walkAll]; rfl
  | b :: bs => by
      rw [walkAll, walkAll_none bs]
      rfl

/-- Each block comes before all that is below it, and that before the next block. -/
theorem walk_none (b : Block) : b.walk none = b.children.flatMap fun c => c :: c.walk none := by
  cases b
  rw [walk]
  exact walkAll_none _

mutual

theorem walk_some (k : BlockKind) : ∀ b : Block,
    b.walk (some k) = (b.walk none).filter (·.kind == k)
  | ⟨_, _, _, _, _, _, children⟩ => by
      rw [walk, walk]
      exact walkAll_some k children

theorem walkAll_some (k : BlockKind) : ∀ bs : List Block,
    walkAll (some k) bs = (walkAll none bs).filter (·.kind == k)
  | [] => by rw [walkAll, walkAll]; rfl
  | b :: bs => by
      have hsplit : walkAll none (b :: bs) = b :: (walk none b ++ walkAll none bs) := by
        rw [walkAll]
        rfl
      rw [hsplit, List.filter_cons, List.filter_append, ← walk_some k b, ← walkAll_some k bs,
        walkAll]
      rfl

end

/-- The headings of a document are the blocks of that kind on a walk through all of it. -/
theorem headings_eq (d : Block) : d.headings = (d.walk none).filter (·.kind == .heading) :=
  walk_some .heading d

end Headline.Block
