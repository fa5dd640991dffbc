import Headline.Proofs.Document.Walk
import Mathlib.Data.List.Chain

/-!
# Where a walk goes

Blocks that look alike are told apart by where they stand. The position of a block below another
lists the children to take on the way down to it, by their indices. Document order is an order of
positions: a block comes before what is below it, and what is below one child before what is below
a later one (`Before`).

The walk through a tree takes all positions but that of the root (`mem_positions`), in this order
(`positions_inOrder`), so that it takes none of them twice. Both go from the children of a block to
the block, since its positions are those of its children behind their indices (`positions_eq`).
-/

namespace Headline.Block

/-- The block at a position below a block, or the block itself at the empty one. -/
def at? : Block → List Nat → Option Block
  | b, [] => some b
  | b, i :: p => b.children[i]?.bind fun c => at? c p

/-- Document order. -/
inductive Before : List Nat → List Nat → Prop where
  /-- a block and what is below it -/
  | above (p : List Nat) (i : Nat) (q : List Nat) : Before p (p ++ i :: q)
  /-- two children of a block, each with what is below it -/
  | beside (r : List Nat) {i j : Nat} (p q : List Nat) (h : i < j) :
      Before (r ++ i :: p) (r ++ j :: q)

mutual

/-- The positions below a block in the order of the walk. -/
def positions : Block → List (List Nat)
  | ⟨_, _, _, _, _, _, children⟩ => positionsFrom 0 children

/-- The positions of several children and below them, the first child having the given index. -/
def positionsFrom (i : Nat) : List Block → List (List Nat)
  | [] => []
  | b :: bs => ([] :: positions b).map (i :: ·) ++ positionsFrom (i + 1) bs

end

variable {p q : List Nat} {i : Nat} {b c : Block}

theorem sizeOf_lt_of_mem_children (h : c ∈ b.children) : sizeOf c < sizeOf b := by
  cases b
  have hlt := List.sizeOf_lt_of_mem h
  simp only [Block.mk.sizeOf_spec] at *
  omega

/-- What holds of a block if it holds of its children holds of all blocks. -/
theorem induct {motive : Block → Prop} (h : ∀ b, (∀ c ∈ b.children, motive c) → motive b)
    (b : Block) : motive b :=
  h b fun c _hc => induct h c
termination_by sizeOf b
decreasing_by exact sizeOf_lt_of_mem_children _hc

/-! ## Document order -/

theorem Before.ne (h : Before p q) : p ≠ q := by
  cases h with
  | above p i q => simp
  | beside r p q h =>
      intro heq
      obtain ⟨rfl, -⟩ := List.cons.inj (List.append_cancel_left heq)
      exact Nat.lt_irrefl _ h

theorem Before.cons (i : Nat) (h : Before p q) : Before (i :: p) (i :: q) := by
  cases h with
  | above p j q => exact .above (i :: p) j q
  | beside r p q h => exact .beside (i :: r) p q h

theorem before_of_ne_nil (h : q ≠ []) : Before [] q := by
  obtain ⟨i, q, rfl⟩ := List.exists_cons_of_ne_nil h
  exact .above [] i q

/-! ## Positions -/

theorem at?_cons (h : b.children[i]? = some c) (p : List Nat) : b.at? (i :: p) = c.at? p := by
  rw [at?, h]
  rfl

theorem positionsFrom_eq (i : Nat) (bs : List Block) :
    positionsFrom i bs =
      (bs.zipIdx i).flatMap fun x => ([] :: x.1.positions).map (x.2 :: ·) := by
  induction bs generalizing i with
  | nil => rw [positionsFrom]; rfl
  | cons b bs ih => rw [positionsFrom, ih, List.zipIdx_cons, List.flatMap_cons]

theorem positions_eq (b : Block) : b.positions =
    b.children.zipIdx.flatMap fun x => ([] :: x.1.positions).map (x.2 :: ·) := by
  cases b
  rw [positions, positionsFrom_eq]

theorem mem_positions_cons : i :: p ∈ b.positions ↔
    ∃ c, b.children[i]? = some c ∧ p ∈ [] :: c.positions := by
  rw [positions_eq, List.mem_flatMap]
  constructor
  · rintro ⟨⟨c, k⟩, hc, hp⟩
    obtain ⟨q, hq, heq⟩ := List.mem_map.mp hp
    obtain ⟨rfl, rfl⟩ := List.cons.inj heq
    exact ⟨c, List.mem_zipIdx_iff_getElem?.mp hc, hq⟩
  · rintro ⟨c, hc, hp⟩
    exact ⟨(c, i), List.mem_zipIdx_iff_getElem?.mpr hc, List.mem_map_of_mem hp⟩

theorem nil_notMem_positions (b : Block) : [] ∉ b.positions := by
  rw [positions_eq, List.mem_flatMap]
  rintro ⟨x, -, hp⟩
  obtain ⟨q, -, heq⟩ := List.mem_map.mp hp
  cases heq

/-- The positions are all those at which there is a block, less that of the root. -/
theorem mem_positions : p ∈ b.positions ↔ p ≠ [] ∧ (b.at? p).isSome = true := by
  induction p generalizing b with
  | nil => simp [nil_notMem_positions]
  | cons i p ih =>
      have hbelow : ∀ c : Block, p ∈ [] :: c.positions ↔ (c.at? p).isSome = true := by
        intro c
        rw [List.mem_cons, ih]
        by_cases hp : p = []
        · simp [hp, at?]
        · simp [hp]
      simp only [mem_positions_cons, hbelow]
      rw [at?]
      cases b.children[i]? <;> simp

theorem pairwise_zipIdx_lt {α : Type} (xs : List α) :
    xs.zipIdx.Pairwise fun x y => x.2 < y.2 := by
  have hlt : (xs.zipIdx.map Prod.snd).Pairwise (· < ·) := by
    rw [List.zipIdx_map_snd]
    exact List.pairwise_lt_range' 1
  exact List.pairwise_map.mp hlt

/-- The positions of the walk ascend in document order. -/
theorem positions_inOrder (b : Block) : b.positions.Pairwise Before := by
  induction b using induct with
  | h b ih =>
      rw [positions_eq, List.pairwise_flatMap]
      constructor
      · rintro ⟨c, i⟩ hc
        have hbelow := ih c (List.fst_mem_of_mem_zipIdx hc)
        have hfirst : ∀ q ∈ c.positions, Before [] q :=
          fun q hq => before_of_ne_nil (mem_positions.mp hq).1
        rw [List.pairwise_map]
        exact (List.pairwise_cons.mpr ⟨hfirst, hbelow⟩).imp fun h => h.cons i
      · refine (pairwise_zipIdx_lt b.children).imp fun {x y} hlt p hp q hq => ?_
        obtain ⟨p, -, rfl⟩ := List.mem_map.mp hp
        obtain ⟨q, -, rfl⟩ := List.mem_map.mp hq
        exact .beside [] p q hlt

/-- The walk takes the positions in their order. -/
theorem walk_positions (b : Block) : (b.walk none).map some = b.positions.map b.at? := by
  induction b using induct with
  | h b ih =>
      have hchild : ∀ x ∈ b.children.zipIdx, (x.1 :: x.1.walk none).map some =
          (([] :: x.1.positions).map (x.2 :: ·)).map b.at? := by
        rintro ⟨c, i⟩ hc
        have hget := List.mem_zipIdx_iff_getElem?.mp hc
        have hbelow := ih c (List.mem_of_getElem? hget)
        have hat : b.at? ∘ (i :: ·) = c.at? := funext (at?_cons hget)
        rw [List.map_map, hat, List.map_cons, List.map_cons, hbelow]
        rfl
      have hwalk : b.walk none = b.children.zipIdx.flatMap fun x => x.1 :: x.1.walk none := by
        rw [walk_none, ← List.zipIdx_map_fst 0 b.children, List.flatMap_map,
          List.zipIdx_map_fst]
      rw [hwalk, positions_eq, List.map_flatMap, List.map_flatMap]
      exact List.flatMap_congr hchild

/-- **The walk is complete and in order.** It takes the blocks at certain positions, one after the
other. These are all the positions below the root at which there is a block, none of them twice,
and each comes before the later ones in document order. A walk that looks for a kind takes those
blocks of the full walk that are of this kind, wherever they stand. -/
theorem walk_complete (b : Block) :
    (∃ ps : List (List Nat), (b.walk none).map some = ps.map b.at?
      ∧ (∀ p, p ∈ ps ↔ p ≠ [] ∧ (b.at? p).isSome = true)
      ∧ ps.Nodup ∧ ps.Pairwise Before)
    ∧ ∀ kind, b.walk (some kind) = (b.walk none).filter (·.kind == kind) := by
  have horder := positions_inOrder b
  have honce : b.positions.Nodup := horder.imp Before.ne
  refine ⟨⟨b.positions, walk_positions b, fun p => mem_positions, honce, horder⟩, ?_⟩
  exact fun kind => walk_some kind b

end Headline.Block
