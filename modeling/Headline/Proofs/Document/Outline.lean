import Headline.Proofs.Document.Walk

/-!
# The outline of a tree

The outline of a tree lists its blocks in document order and says of each which blocks stand
around it. Blocks are counted from zero in that order, and a block around another is named by
its number, so that blocks which look alike are told apart. Spans are no blocks of the outline
and are not counted.

In a tidy tree the spans are what stands in headings, and nothing else (`Tidy`). What the outline
of such a tree says can be put without reference to how it is made (`IsOutline`): its blocks are
those of the walk that are no spans, and the first number beside a block names the block that
has it as a child.

The outline of several blocks in a row goes over their concatenation (`outlineAll_append`): what
comes later is counted from where the earlier blocks end.
-/

namespace Headline

/-- Where a block stands: what it is, and the numbers of the blocks around it, innermost first. -/
structure Place where
  kind : BlockKind
  line : Int
  level : Int
  around : List Nat
deriving Repr, DecidableEq

namespace Block

def isSpan (b : Block) : Bool := b.kind == .text || b.kind == .inlineCode

mutual

/-- The blocks below a block, each with the numbers of those around it. `around` names the block
itself and those around it, and `next` is the number of the first block below. -/
def outlineFrom (around : List Nat) (next : Nat) : Block → List (Block × List Nat)
  | ⟨_, _, _, _, _, _, children⟩ => outlineAll around next children

/-- Several blocks, each with the blocks below it. -/
def outlineAll (around : List Nat) (next : Nat) : List Block → List (Block × List Nat)
  | [] => []
  | b :: bs =>
    if b.isSpan then outlineAll around next bs
    else
      let here := (b, around) :: outlineFrom (next :: around) (next + 1) b
      here ++ outlineAll around (next + here.length) bs

end

/-- The blocks of a document with the numbers of the blocks around them. -/
def outline (d : Block) : List (Block × List Nat) := d.outlineFrom [] 0

/-- The place of a block in an outline. -/
def place (x : Block × List Nat) : Place := ⟨x.1.kind, x.1.line, x.1.level, x.2⟩

variable {around : List Nat} {next : Nat} {x : Block × List Nat} {b : Block} {kind : BlockKind}

theorem outlineFrom_eq (b : Block) :
    outlineFrom around next b = outlineAll around next b.children := by
  cases b
  rw [outlineFrom]

theorem outlineAll_singleton (hb : b.isSpan = false) :
    outlineAll around next [b] = (b, around) :: outlineFrom (next :: around) (next + 1) b := by
  simp [outlineAll, hb]

theorem outlineAll_append (bs cs : List Block) :
    outlineAll around next (bs ++ cs) =
      outlineAll around next bs ++
        outlineAll around (next + (outlineAll around next bs).length) cs := by
  induction bs generalizing next with
  | nil => simp [outlineAll]
  | cons b bs ih =>
      rw [List.cons_append, outlineAll, outlineAll]
      by_cases hspan : b.isSpan = true
      · rw [if_pos hspan, if_pos hspan, ih]
      · rw [if_neg hspan, if_neg hspan]
        simp only [ih, List.append_assoc, List.length_append, Nat.add_assoc]

/-- Spans leave no trace in an outline. -/
theorem outlineAll_spans {bs : List Block} (h : ∀ b ∈ bs, b.isSpan = true) :
    outlineAll around next bs = [] := by
  induction bs with
  | nil => rw [outlineAll]
  | cons b bs ih =>
      obtain ⟨hspan, hbs⟩ := List.forall_mem_cons.mp h
      rw [outlineAll, if_pos hspan, ih hbs]

/-! ## Tidy trees -/

/-- A block of the kind may have the block as a child: spans stand in headings, where nothing
else does, and have no children. -/
def FitsIn (kind : BlockKind) (b : Block) : Prop :=
  b.isSpan = (kind == .heading) ∧ (b.isSpan = true → b.children = [])

/-- From a block on downwards, all children fit in where they stand. -/
def Tidy (b : Block) : Prop :=
  ∀ parent ∈ b :: b.walk none, ∀ c ∈ parent.children, c.FitsIn parent.kind

theorem mem_walk_none {c : Block} :
    c ∈ b.walk none ↔ ∃ child ∈ b.children, c ∈ child :: child.walk none := by
  rw [walk_none, List.mem_flatMap]

theorem tidy_iff : b.Tidy ↔ ∀ c ∈ b.children, c.FitsIn b.kind ∧ c.Tidy := by
  constructor
  · intro h c hc
    refine ⟨h b (List.mem_cons_self ..) c hc, fun parent hparent => h parent ?_⟩
    exact List.mem_cons_of_mem _ (mem_walk_none.mpr ⟨c, hc, hparent⟩)
  · intro h parent hparent
    rcases List.mem_cons.mp hparent with rfl | hparent
    · exact fun c hc => (h c hc).1
    · obtain ⟨child, hchild, hmem⟩ := mem_walk_none.mp hparent
      exact (h child hchild).2 parent hmem

theorem tidy_of_childless (h : b.children = []) : b.Tidy := by
  rw [tidy_iff, h]
  exact fun c hc => nomatch hc

/-! ## What an outline says -/

/-- A list names the blocks of a tree, each once and in document order, and the first number
beside a block is that of its parent, beside which the other numbers stand. -/
structure IsOutline (d : Block) (xs : List (Block × List Nat)) : Prop where
  blocks : xs.map (·.1) = (d.walk none).filter (!·.isSpan)
  top : ∀ x ∈ xs, x.2 = [] → x.1 ∈ d.children
  inside : ∀ x ∈ xs, ∀ j js, x.2 = j :: js → ∃ parent, xs[j]? = some (parent, js)
    ∧ x.1 ∈ parent.children

mutual

theorem map_outlineFrom (around : List Nat) (next : Nat) : ∀ b : Block, b.Tidy →
    (outlineFrom around next b).map (·.1) = (b.walk none).filter (!·.isSpan)
  | ⟨_, _, _, _, _, _, children⟩, h => by
      rw [outlineFrom, walk]
      exact map_outlineAll around next children
        (fun c hc => (tidy_iff.mp h c hc).1.2) (fun c hc => (tidy_iff.mp h c hc).2)

theorem map_outlineAll (around : List Nat) (next : Nat) : ∀ bs : List Block,
    (∀ b ∈ bs, b.isSpan = true → b.children = []) → (∀ b ∈ bs, b.Tidy) →
      (outlineAll around next bs).map (·.1) = (walkAll none bs).filter (!·.isSpan)
  | [], _, _ => by rw [outlineAll, walkAll]; rfl
  | b :: bs, hbare, htidy => by
      obtain ⟨hb, hbs⟩ := List.forall_mem_cons.mp htidy
      have hrest := fun next => map_outlineAll around next bs
        (fun b hb => hbare b (List.mem_cons_of_mem _ hb)) hbs
      rw [outlineAll, walkAll_none, List.flatMap_cons, ← walkAll_none]
      by_cases hspan : b.isSpan = true
      · have hbelow : b.walk none = [] := by
          rw [walk_none, hbare b (List.mem_cons_self ..) hspan, List.flatMap_nil]
        rw [if_pos hspan, hrest, hbelow]
        simp [hspan]
      · rw [if_neg hspan]
        simp [hspan, map_outlineFrom _ _ b hb, hrest]

end

mutual

/-- The first number beside a block names its parent, unless that is the block from which the
outline is made. -/
theorem outlineFrom_inside (around : List Nat) (next : Nat) : ∀ b : Block,
    ∀ x ∈ outlineFrom around next b, (x.2 = around ∧ x.1 ∈ b.children)
      ∨ ∃ j js parent, x.2 = j :: js ∧ next ≤ j
        ∧ (outlineFrom around next b)[j - next]? = some (parent, js) ∧ x.1 ∈ parent.children
  | ⟨_, _, _, _, _, _, children⟩ => by
      rw [outlineFrom]
      exact outlineAll_inside around next children

theorem outlineAll_inside (around : List Nat) (next : Nat) :
    ∀ bs : List Block, ∀ x ∈ outlineAll around next bs, (x.2 = around ∧ x.1 ∈ bs)
      ∨ ∃ j js parent, x.2 = j :: js ∧ next ≤ j
        ∧ (outlineAll around next bs)[j - next]? = some (parent, js)
        ∧ x.1 ∈ parent.children
  | [], x, hx => by rw [outlineAll] at hx; cases hx
  | b :: bs, x, hx => by
      rw [outlineAll] at hx ⊢
      by_cases hspan : b.isSpan = true
      · rw [if_pos hspan] at hx ⊢
        exact (outlineAll_inside around next bs x hx).imp_left
          fun h => ⟨h.1, List.mem_cons_of_mem _ h.2⟩
      · rw [if_neg hspan] at hx ⊢
        rcases List.mem_append.mp hx with hx | hx
        · rcases List.mem_cons.mp hx with rfl | hx
          · exact Or.inl ⟨rfl, List.mem_cons_self ..⟩
          · right
            rcases outlineFrom_inside (next :: around) (next + 1) b x hx with
              ⟨haround, hchild⟩ | ⟨j, js, parent, haround, hj, hparent, hchild⟩
            · exact ⟨next, around, b, haround, Nat.le_refl _, by simp, hchild⟩
            · have hindex : j - next = (j - (next + 1)) + 1 := by omega
              refine ⟨j, js, parent, haround, by omega, ?_, hchild⟩
              have hbound := (List.getElem?_eq_some_iff.mp hparent).1
              rw [hindex, List.cons_append, List.getElem?_cons_succ,
                List.getElem?_append_left hbound]
              exact hparent
        · rcases outlineAll_inside around _ bs x hx with
            ⟨haround, hmem⟩ | ⟨j, js, parent, haround, hj, hparent, hchild⟩
          · exact Or.inl ⟨haround, List.mem_cons_of_mem _ hmem⟩
          · refine Or.inr ⟨j, js, parent, haround, by omega, ?_, hchild⟩
            rw [List.getElem?_append_right (by omega), Nat.sub_sub]
            exact hparent

end

/-- **The outline of a tidy tree.** -/
theorem Tidy.isOutline {d : Block} (h : d.Tidy) : IsOutline d d.outline where
  blocks := map_outlineFrom [] 0 d h
  top := by
    intro x hx htop
    rcases outlineFrom_inside [] 0 d x hx with ⟨-, hchild⟩ | ⟨j, js, parent, haround, -⟩
    · exact hchild
    · rw [htop] at haround
      cases haround
  inside := by
    intro x hx j js haround
    rcases outlineFrom_inside [] 0 d x hx with ⟨htop, -⟩ | ⟨j', js', parent, haround', -, hparent⟩
    · rw [haround] at htop
      cases htop
    · rw [haround] at haround'
      cases haround'
      exact ⟨parent, hparent⟩

end Block

end Headline
