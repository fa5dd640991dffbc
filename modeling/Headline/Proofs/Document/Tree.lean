import Headline.Proofs.Document.Frames
import Headline.Proofs.Document.Nesting

/-!
# The tree has a block for each token that becomes one

Where the blocks of a tree belong can be said of the tokens alone (`placesOf`): each token that
becomes a block has its place in the order of the run, and around it are the openings that are
open there and become blocks, whatever else is open.

The tree has these blocks and no others if the run is orderly: nothing is closed that was not
opened, the depths of headings can be read, and a heading holds inline tokens only. The invariant
of the construction (`Reached`) is that the outline of the open blocks is right for the tokens so
far, and that what is open is what the tokens have left open, blocks and counted openings alike.
-/

namespace Headline

namespace Token

variable {t : Token}

def opensHeading (t : Token) : Bool := t.isOpening && t.name == "heading_open"

theorem blockKind?_opening (h : t.isOpening = true) :
    t.blockKind? = Tree.containerKind? t.name := by
  rw [blockKind?, if_pos h]

theorem blockKind?_closing (h : t.isClosing = true) : t.blockKind? = none := by
  simp [blockKind?, h, isOpening_eq_false h]

theorem blockKind?_other (hopen : t.isOpening = false) (hclose : t.isClosing = false) :
    t.blockKind? = Tree.leafKind? t.name := by
  simp [blockKind?, hopen, hclose]

theorem isInline_iff :
    t.isInline = true ↔ t.isOpening = false ∧ t.isClosing = false ∧ t.name = "inline" := by
  simp [isInline, and_assoc]

theorem blockKind?_inline (h : t.isInline = true) : t.blockKind? = none := by
  obtain ⟨hopen, hclose, hname⟩ := isInline_iff.mp h
  rw [blockKind?_other hopen hclose, hname]
  decide

theorem isInline_opening (h : t.isOpening = true) : t.isInline = false := by
  simp [isInline, h]

end Token

namespace Tree

open Block Nesting

/-- The places of the blocks that a run of tokens asks for. -/
def placesOf (tokens : List Token) : List Place :=
  tokens.zipIdx.filterMap fun (t, p) =>
    t.blockKind?.map fun kind => ⟨kind, t.line, t.level kind, around tokens p⟩

/-- If a run starts with the opening of a heading, the first token behind it that is not inline
is a closing. -/
def headingCloses : List Token → Bool
  | [] => true
  | t :: ts => !t.opensHeading || (ts.dropWhile Token.isInline).head?.all Token.isClosing

/-- A run of tokens as it comes from a reader of Markdown. A heading may be open at its end, but
then only inline tokens come after its opening. -/
structure Orderly (tokens : List Token) : Prop where
  closings : NeverOverclosed tokens
  depths : ∀ t ∈ tokens, t.name = "heading_open" → t.depthOfTag.isOk = true
  headings : ∀ ts, ts <:+ tokens → headingCloses ts = true

instance (tokens : List Token) : Decidable (Orderly tokens) :=
  decidable_of_iff
    (NeverOverclosed tokens ∧ (∀ t ∈ tokens, t.name = "heading_open" → t.depthOfTag.isOk = true)
      ∧ ∀ ts ∈ tokens.tails, headingCloses ts = true)
    (by
      simp only [List.mem_tails]
      exact ⟨fun ⟨closings, depths, headings⟩ => ⟨closings, depths, headings⟩,
        fun ⟨closings, depths, headings⟩ => ⟨closings, depths, headings⟩⟩)

/-- The run is inside a heading: since it was opened, there were only inline tokens. -/
def InHeading (ts : List Token) : Prop :=
  ∃ before h mid, ts = before ++ h :: mid ∧ h.opensHeading = true ∧ ∀ u ∈ mid, u.isInline = true

variable {ts rest tokens : List Token} {t : Token} {f : Frame} {outer : List Frame}
  {kind : BlockKind} {lines : List String}

/-! ## What tokens ask for -/

theorem placesOf_concat : placesOf (ts ++ [t]) = placesOf ts ++
    (t.blockKind?.map fun kind => ⟨kind, t.line, t.level kind, around ts ts.length⟩).toList := by
  have hlast : around (ts ++ [t]) ts.length = around ts ts.length := around_append (Nat.le_refl _)
  rw [placesOf, List.zipIdx_append, List.filterMap_append]
  congr 1
  · refine List.filterMap_congr fun (u, p) hup => ?_
    have hlt : p < ts.length := List.snd_lt_of_mem_zipIdx hup
    simp only [around_append (Nat.le_of_lt hlt)]
  · simp only [List.zipIdx_singleton, Nat.zero_add, List.filterMap_cons, hlast]
    cases t.blockKind? <;> rfl

theorem placesOf_concat_of_none (h : t.blockKind? = none) : placesOf (ts ++ [t]) = placesOf ts := by
  simp [placesOf_concat, h]

theorem length_placesOf : (placesOf ts).length = blockCount ts := by
  induction ts using List.reverseRecOn with
  | nil => rfl
  | append_singleton ts t ih =>
      rw [placesOf_concat, List.length_append, ih, blockCount, blockCount, List.countP_append,
        List.countP_singleton, Token.isBlock]
      cases t.blockKind? <;> rfl

theorem InHeading.concat (h : InHeading ts) (hinline : t.isInline = true) :
    InHeading (ts ++ [t]) := by
  obtain ⟨before, h, mid, rfl, hopens, hmid⟩ := h
  refine ⟨before, h, mid ++ [t], by simp, hopens, fun u hu => ?_⟩
  rcases List.mem_append.mp hu with hu | hu
  · exact hmid u hu
  · rwa [List.mem_singleton.mp hu]

theorem inHeading_last (h : t.opensHeading = true) : InHeading (ts ++ [t]) :=
  ⟨ts, t, [], rfl, h, fun _ hu => nomatch hu⟩

/-- The token that ends the inline tokens of a heading is a closing. -/
theorem Orderly.isClosing (h : Orderly (ts ++ t :: rest)) (hheading : InHeading ts)
    (hinline : t.isInline = false) : t.isClosing = true := by
  obtain ⟨before, heading, mid, rfl, hopens, hmid⟩ := hheading
  have hcloses := h.headings (heading :: (mid ++ t :: rest)) ⟨before, by simp⟩
  rw [headingCloses, List.dropWhile_append_of_pos hmid,
    List.dropWhile_cons_of_neg (by simp [hinline])] at hcloses
  simpa [hopens] using hcloses

/-! ## New blocks -/

theorem mem_of_lookup {α β : Type} [BEq α] [LawfulBEq α] {xs : List (α × β)} {a : α} {b : β}
    (h : xs.lookup a = some b) : (a, b) ∈ xs := by
  obtain ⟨before, after, rfl, -⟩ := List.lookup_eq_some_iff.mp h
  simp

theorem containerKind?_cases {name : String} (h : containerKind? name = some kind) :
    kind ≠ .text ∧ kind ≠ .inlineCode ∧ (kind = .heading → name = "heading_open") := by
  have hmem := mem_of_lookup h
  simp only [List.mem_cons, Prod.mk.injEq, List.not_mem_nil, or_false] at hmem
  rcases hmem with ⟨rfl, rfl⟩ | ⟨rfl, rfl⟩ | ⟨rfl, rfl⟩ | ⟨rfl, rfl⟩ | ⟨rfl, rfl⟩ | ⟨rfl, rfl⟩
    | ⟨rfl, rfl⟩ <;> simp

theorem leafKind?_cases {name : String} (h : leafKind? name = some kind) :
    kind ≠ .text ∧ kind ≠ .inlineCode ∧ kind ≠ .heading := by
  have hmem := mem_of_lookup h
  simp only [List.mem_cons, Prod.mk.injEq, List.not_mem_nil, or_false] at hmem
  rcases hmem with ⟨rfl, rfl⟩ | ⟨rfl, rfl⟩ | ⟨rfl, rfl⟩ | ⟨rfl, rfl⟩ <;> simp

theorem blockKind?_cases (h : t.blockKind? = some kind) :
    kind ≠ .text ∧ kind ≠ .inlineCode ∧ (kind = .heading → t.opensHeading = true) := by
  cases hopen : t.isOpening with
  | true =>
      have hname := (Token.blockKind?_opening hopen).symm.trans h
      obtain ⟨htext, hcode, hheading⟩ := containerKind?_cases hname
      exact ⟨htext, hcode, fun hkind => by simp [Token.opensHeading, hopen, hheading hkind]⟩
  | false =>
      cases hclose : t.isClosing with
      | true =>
          rw [Token.blockKind?_closing hclose] at h
          cases h
      | false =>
          have hname := (Token.blockKind?_other hopen hclose).symm.trans h
          obtain ⟨htext, hcode, hheading⟩ := leafKind?_cases hname
          exact ⟨htext, hcode, fun hkind => absurd hkind hheading⟩

/-- A block as a token starts it. -/
structure Starts (t : Token) (k : BlockKind) (b : Block) : Prop where
  kind : b.kind = k
  line : b.line = t.line
  level : b.level = t.level k
  children : b.children = []

theorem newBlock_ok (lines : List String) (h : t.blockKind? = some kind)
    (hdepth : t.name = "heading_open" → t.depthOfTag.isOk = true) :
    ∃ b, newBlock lines kind t = .ok b ∧ Starts t kind b := by
  have hline : t.line = (t.span.getD (0, 0)).1 + 1 := by
    cases hspan : t.span with
    | none => simp [Token.line, hspan]
    | some lines => simp [Token.line, hspan]
  by_cases hkind : kind = .heading
  · have hopens := (blockKind?_cases h).2.2 hkind
    simp only [Token.opensHeading, Bool.and_eq_true, beq_iff_eq] at hopens
    cases hread : t.depthOfTag with
    | error e =>
        have hok := hdepth hopens.2
        rw [hread] at hok
        cases hok
    | ok n =>
        have hlevel : t.level kind = n := by simp [Token.level, hkind, hread, Except.toOption]
        rw [Token.depthOfTag] at hread
        simp only [newBlock, if_pos hkind, hread]
        exact ⟨_, rfl, ⟨rfl, hline.symm, hlevel.symm, rfl⟩⟩
  · have hlevel : t.level kind = 0 := by simp [Token.level, hkind]
    simp only [newBlock, if_neg hkind]
    exact ⟨_, rfl, ⟨rfl, hline.symm, hlevel.symm, rfl⟩⟩

/-! ## One token

What a token does before the document is closed, by what it is. -/

theorem step_counts (hopen : t.isOpening = true) (hkind : t.blockKind? = none) :
    (State.within f outer).step lines t =
      .ok (.within { f with counted := f.counted + 1 } outer) := by
  have hnesting : t.nesting = 1 := by simpa [Token.isOpening] using hopen
  have hname : containerKind? t.name = none :=
    (Token.blockKind?_opening hopen).symm.trans hkind
  rw [State.step, if_pos hnesting, hname]

theorem step_opens (hopen : t.isOpening = true) (hkind : t.blockKind? = some kind) :
    (State.within f outer).step lines t =
      (newBlock lines kind t).map fun b => .within ⟨b, 0⟩ (f :: outer) := by
  have hnesting : t.nesting = 1 := by simpa [Token.isOpening] using hopen
  have hname : containerKind? t.name = some kind :=
    (Token.blockKind?_opening hopen).symm.trans hkind
  rw [State.step, if_pos hnesting, hname]

theorem step_uncounts (hclose : t.isClosing = true) {n : Nat} (hcounted : f.counted = n + 1) :
    (State.within f outer).step lines t = .ok (.within { f with counted := n } outer) := by
  have hback : t.nesting = -1 := by simpa [Token.isClosing] using hclose
  have hnesting : t.nesting ≠ 1 := by omega
  rw [State.step, if_neg hnesting, if_pos hback, hcounted]

theorem step_leaves (hclose : t.isClosing = true) (hcounted : f.counted = 0) :
    (State.within f outer).step lines t = .ok (State.leave f outer) := by
  have hback : t.nesting = -1 := by simpa [Token.isClosing] using hclose
  have hnesting : t.nesting ≠ 1 := by omega
  rw [State.step, if_neg hnesting, if_pos hback, hcounted]

theorem step_inlines (hinline : t.isInline = true) :
    (State.within f outer).step lines t = .ok (.within (f.addInline t) outer) := by
  obtain ⟨hopen, hclose, hname⟩ := Token.isInline_iff.mp hinline
  have hnesting : t.nesting ≠ 1 := by simpa [Token.isOpening] using hopen
  have hback : t.nesting ≠ -1 := by simpa [Token.isClosing] using hclose
  rw [State.step, if_neg hnesting, if_neg hback, if_pos (beq_iff_eq.mpr hname)]

section OtherTokens

variable (hopen : t.isOpening = false) (hclose : t.isClosing = false)
  (hinline : t.isInline = false)

include hopen hclose hinline

theorem step_adds (hkind : t.blockKind? = some kind) :
    (State.within f outer).step lines t =
      (newBlock lines kind t).map fun b =>
        .within (f.add { b with content := t.content }) outer := by
  have hnesting : t.nesting ≠ 1 := by simpa [Token.isOpening] using hopen
  have hback : t.nesting ≠ -1 := by simpa [Token.isClosing] using hclose
  have hname : ¬(t.name == "inline") = true := by
    simpa [Token.isInline, hopen, hclose] using hinline
  have hleaf : leafKind? t.name = some kind :=
    (Token.blockKind?_other hopen hclose).symm.trans hkind
  rw [State.step, if_neg hnesting, if_neg hback, if_neg hname, hleaf]

theorem step_skips (hkind : t.blockKind? = none) :
    (State.within f outer).step lines t = .ok (.within f outer) := by
  have hnesting : t.nesting ≠ 1 := by simpa [Token.isOpening] using hopen
  have hback : t.nesting ≠ -1 := by simpa [Token.isClosing] using hclose
  have hname : ¬(t.name == "inline") = true := by
    simpa [Token.isInline, hopen, hclose] using hinline
  have hleaf : leafKind? t.name = none := (Token.blockKind?_other hopen hclose).symm.trans hkind
  rw [State.step, if_neg hnesting, if_neg hback, if_neg hname, hleaf]

end OtherTokens

/-! ## Inline tokens -/

theorem prependText_spans {line : Int} {text : String} {spans : List Block}
    (h : ∀ s ∈ spans, s.isSpan = true ∧ s.children = []) :
    ∀ s ∈ prependText line text spans, s.isSpan = true ∧ s.children = [] := by
  unfold prependText
  split
  · exact h
  · cases spans with
    | nil =>
        intro s hs
        obtain rfl := List.mem_singleton.mp hs
        exact ⟨rfl, rfl⟩
    | cons first others =>
        obtain ⟨hfirst, hothers⟩ := List.forall_mem_cons.mp h
        dsimp only
        split
        · exact List.forall_mem_cons.mpr ⟨hfirst, hothers⟩
        · exact List.forall_mem_cons.mpr ⟨⟨rfl, rfl⟩, h⟩

theorem spans_childless (line : Int) (ts : List Token) :
    ∀ s ∈ spans line ts, s.isSpan = true ∧ s.children = [] := by
  induction ts with
  | nil =>
      rw [spans]
      exact fun s hs => nomatch hs
  | cons t ts ih =>
      rw [spans]
      split
      · exact List.forall_mem_cons.mpr ⟨⟨rfl, rfl⟩, ih⟩
      split
      · exact prependText_spans ih
      split
      · exact prependText_spans ih
      split
      · exact prependText_spans ih
      · exact ih

theorem addInline_of_ne (h : f.block.kind ≠ .heading) :
    ∃ content, f.addInline t = { f with block := { f.block with content := content } } := by
  rw [Frame.addInline]
  simp only [if_neg h]
  exact ⟨_, rfl⟩

theorem addInline_of_heading (h : f.block.kind = .heading) :
    ∃ content, f.addInline t = { f with block := { f.block with
      content := content, children := (spans f.block.line t.children).reverse } } := by
  rw [Frame.addInline]
  simp only [if_pos h]
  exact ⟨_, rfl⟩

theorem addInline_same (f : Frame) (t : Token) :
    (f.addInline t).block.kind = f.block.kind ∧ (f.addInline t).counted = f.counted := by
  by_cases hkind : f.block.kind = .heading
  · obtain ⟨content, heq⟩ := addInline_of_heading (t := t) hkind
    rw [heq]
    exact ⟨rfl, rfl⟩
  · obtain ⟨content, heq⟩ := addInline_of_ne (t := t) hkind
    rw [heq]
    exact ⟨rfl, rfl⟩

theorem Frame.Sound.addInline (h : f.Sound) (t : Token) : (f.addInline t).Sound := by
  by_cases hkind : f.block.kind = .heading
  · obtain ⟨content, heq⟩ := addInline_of_heading (t := t) hkind
    rw [heq]
    refine ⟨h.1, fun c hc => ?_⟩
    obtain ⟨hspan, hchildren⟩ := spans_childless _ _ c (List.mem_reverse.mp hc)
    refine ⟨⟨?_, fun _ => hchildren⟩, tidy_of_childless hchildren⟩
    rw [hspan]
    exact (beq_iff_eq.mpr hkind).symm
  · obtain ⟨content, heq⟩ := addInline_of_ne (t := t) hkind
    rw [heq]
    exact h

/-- Inline tokens do not change the outline, since what they change are spans. -/
theorem sketch_addInline (h : f.Sound) (t : Token) :
    sketch (f.addInline t) outer = sketch f outer := by
  by_cases hkind : f.block.kind = .heading
  · obtain ⟨content, heq⟩ := addInline_of_heading (t := t) hkind
    rw [heq]
    refine sketch_congr rfl rfl rfl fun around next => ?_
    have hold : ∀ c ∈ f.block.children.reverse, c.isSpan = true := fun c hc => by
      rw [(h.2 c (List.mem_reverse.mp hc)).1.1, hkind]
      rfl
    have hnew : ∀ c ∈ (spans f.block.line t.children).reverse.reverse, c.isSpan = true :=
      fun c hc => (spans_childless _ _ c (by simpa using hc)).1
    rw [Frame.below, Frame.below, outlineAll_spans hold, outlineAll_spans hnew]
  · obtain ⟨content, heq⟩ := addInline_of_ne (t := t) hkind
    rw [heq]
    exact sketch_congr rfl rfl rfl fun around next => rfl

/-! ## The invariant -/

/-- The open blocks are right for the tokens so far. -/
structure Reached (ts : List Token) (f : Frame) (outer : List Frame) : Prop where
  places : (sketch f outer).1 = placesOf ts
  stack : marks f outer = stack ts
  sound : AllSound f outer
  heading : f.block.kind = .heading → f.counted = 0 ∧ InHeading ts

theorem Reached.around_eq (h : Reached ts f outer) : (sketch f outer).2 = around ts ts.length := by
  rw [← filterMap_marks, h.stack, around_length]

theorem Reached.length_eq (h : Reached ts f outer) : (sketch f outer).1.length = blockCount ts := by
  rw [h.places, length_placesOf]

/-- Where a heading is open, there are only inline tokens and closings. -/
theorem Reached.ne_heading (h : Reached ts f outer) (horderly : Orderly (ts ++ t :: rest))
    (hinline : t.isInline = false) (hclose : t.isClosing = false) : f.block.kind ≠ .heading := by
  intro hkind
  rw [horderly.isClosing (h.heading hkind).2 hinline] at hclose
  cases hclose

theorem reached_nil (file : Option String) : Reached [] ⟨Block.document file [], 0⟩ [] where
  places := by
    simp [sketch, Frame.below, Block.document, outlineAll, placesOf]
  stack := rfl
  sound := ⟨⟨rfl, List.forall_mem_nil _⟩, List.forall_mem_nil _⟩
  heading := by
    intro h
    cases h

section Steps

variable (h : Reached ts f outer) (horderly : Orderly (ts ++ t :: rest))
include h horderly

/-- An opening that becomes a block. -/
theorem Reached.opens {b : Block} (hopen : t.isOpening = true) (hkind : t.blockKind? = some kind)
    (hb : Starts t kind b) : Reached (ts ++ [t]) ⟨b, 0⟩ (f :: outer) := by
  obtain ⟨htext, hcode, hheading⟩ := blockKind?_cases hkind
  have hne := h.ne_heading horderly (Token.isInline_opening hopen) (Token.isClosing_eq_false hopen)
  constructor
  case places =>
    have hbelow : ∀ around next, Frame.below ⟨b, 0⟩ around next = [] := by
      intro around next
      rw [Frame.below, hb.children, List.reverse_nil, outlineAll, List.map_nil]
    rw [sketch_cons, hbelow, placesOf_concat, hkind, hb.kind, hb.line, hb.level, h.places,
      h.around_eq]
    rfl
  case stack =>
    have hblock : t.isBlock = true := by rw [Token.isBlock, hkind, Option.isSome_some]
    rw [stack_concat_opening hopen, if_pos hblock, ← h.stack, ← h.length_eq]
    rfl
  case sound =>
    refine ⟨⟨?_, fun c hc => ?_⟩, List.forall_mem_cons.mpr ⟨⟨h.sound.1, hne⟩, h.sound.2⟩⟩
    · simp [isSpan, hb.kind, htext, hcode]
    · rw [hb.children] at hc
      cases hc
  case heading =>
    intro hkind
    exact ⟨rfl, inHeading_last (hheading (hb.kind.symm.trans hkind))⟩

/-- An opening that is only counted. -/
theorem Reached.counts (hopen : t.isOpening = true) (hkind : t.blockKind? = none) :
    Reached (ts ++ [t]) { f with counted := f.counted + 1 } outer := by
  have hne := h.ne_heading horderly (Token.isInline_opening hopen) (Token.isClosing_eq_false hopen)
  constructor
  case places =>
    rw [placesOf_concat_of_none hkind, ← h.places]
    exact congrArg Prod.fst (sketch_congr rfl rfl rfl fun _ _ => rfl)
  case stack =>
    have hblock : t.isBlock = false := by rw [Token.isBlock, hkind, Option.isSome_none]
    rw [stack_concat_opening hopen, hblock, ← h.stack, marks, marks, List.replicate_succ]
    rfl
  case sound => exact h.sound
  case heading => exact fun hkind => absurd hkind hne

/-- The closing of an opening that was only counted. -/
theorem Reached.uncounts {n : Nat} (hclose : t.isClosing = true) (hcounted : f.counted = n + 1) :
    Reached (ts ++ [t]) { f with counted := n } outer := by
  have hts : NeverOverclosed ts := horderly.closings.of_append
  have hkind := Token.blockKind?_closing hclose
  constructor
  case places =>
    rw [placesOf_concat_of_none hkind, ← h.places]
    exact congrArg Prod.fst (sketch_congr rfl rfl rfl fun _ _ => rfl)
  case stack =>
    rw [stack_concat_closing hts hclose, ← h.stack, marks, marks, hcounted, List.replicate_succ]
    rfl
  case sound => exact h.sound
  case heading =>
    intro hheading
    have hzero := (h.heading hheading).1
    omega

/-- The closing of a block. There is one, since the document has no opening. -/
theorem Reached.leaves (hclose : t.isClosing = true) (hcounted : f.counted = 0) :
    ∃ g outer', outer = g :: outer' ∧ Reached (ts ++ [t]) (g.add (turned f.block)) outer' := by
  have hts : NeverOverclosed (ts ++ [t]) := by
    have hall := horderly.closings
    rw [List.append_cons] at hall
    exact hall.of_append
  have hkind := Token.blockKind?_closing hclose
  cases outer with
  | nil =>
      refine absurd ?_ (stack_ne_nil hts hclose)
      rw [← h.stack, marks, hcounted]
      rfl
  | cons g outer' =>
      refine ⟨g, outer', rfl, ?_⟩
      constructor
      case places => rw [sketch_leave h.sound.1.1, placesOf_concat_of_none hkind, h.places]
      case stack =>
        have hmarks : marks f (g :: outer') =
            some (sketch g outer').1.length :: marks g outer' := by
          rw [marks, hcounted]
          rfl
        rw [stack_concat_closing hts.of_append hclose, ← h.stack, hmarks]
        rfl
      case sound => exact h.sound.leave
      case heading => exact fun hheading => absurd hheading (h.sound.2 g (List.mem_cons_self ..)).2

omit horderly in
/-- The text of an open block. -/
theorem Reached.inlines (hinline : t.isInline = true) :
    Reached (ts ++ [t]) (f.addInline t) outer := by
  obtain ⟨hopen, hclose, -⟩ := Token.isInline_iff.mp hinline
  have hkind := Token.blockKind?_inline hinline
  constructor
  case places => rw [sketch_addInline h.sound.1, placesOf_concat_of_none hkind, h.places]
  case stack =>
    rw [stack_concat_other hopen hclose, ← h.stack, marks, marks, (addInline_same f t).2]
  case sound => exact ⟨h.sound.1.addInline t, h.sound.2⟩
  case heading =>
    rw [(addInline_same f t).1, (addInline_same f t).2]
    exact fun hheading => (h.heading hheading).imp_right fun hin => hin.concat hinline

/-- A token without parts that becomes a block. -/
theorem Reached.adds {b : Block} (hopen : t.isOpening = false) (hclose : t.isClosing = false)
    (hinline : t.isInline = false) (hkind : t.blockKind? = some kind)
    (hb : Starts t kind b) : Reached (ts ++ [t]) (f.add b) outer := by
  obtain ⟨htext, hcode, -⟩ := blockKind?_cases hkind
  have hne := h.ne_heading horderly hinline hclose
  have hspan : b.isSpan = false := by simp [isSpan, hb.kind, htext, hcode]
  constructor
  case places =>
    have hbelow : ∀ around next, outlineFrom around next b = [] := by
      intro around next
      rw [outlineFrom_eq, hb.children, outlineAll]
    rw [sketch_add hspan, hbelow, placesOf_concat, hkind, hb.kind, hb.line, hb.level, h.places,
      h.around_eq]
    rfl
  case stack =>
    rw [stack_concat_other hopen hclose, ← h.stack]
    rfl
  case sound => exact ⟨h.sound.1.add hne hspan (tidy_of_childless hb.children), h.sound.2⟩
  case heading => exact fun hheading => absurd hheading hne

/-- Any other token. -/
theorem Reached.skips (hopen : t.isOpening = false) (hclose : t.isClosing = false)
    (hinline : t.isInline = false) (hkind : t.blockKind? = none) :
    Reached (ts ++ [t]) f outer where
  places := by rw [placesOf_concat_of_none hkind, h.places]
  stack := by rw [stack_concat_other hopen hclose, h.stack]
  sound := h.sound
  heading := fun hheading => absurd hheading (h.ne_heading horderly hinline hclose)

/-- One token. -/
theorem Reached.step : ∃ f' outer',
    (State.within f outer).step lines t = .ok (.within f' outer')
      ∧ Reached (ts ++ [t]) f' outer' := by
  have hdepth : t.name = "heading_open" → t.depthOfTag.isOk = true :=
    horderly.depths t (by simp)
  cases hopen : t.isOpening with
  | true =>
      cases hkind : t.blockKind? with
      | none => exact ⟨_, _, step_counts hopen hkind, h.counts horderly hopen hkind⟩
      | some kind =>
          obtain ⟨b, hnew, hb⟩ := newBlock_ok lines hkind hdepth
          refine ⟨⟨b, 0⟩, f :: outer, ?_, h.opens horderly hopen hkind hb⟩
          rw [step_opens hopen hkind, hnew]
          rfl
  | false =>
      cases hclose : t.isClosing with
      | true =>
          cases hcounted : f.counted with
          | succ n =>
              exact ⟨_, _, step_uncounts hclose hcounted, h.uncounts horderly hclose hcounted⟩
          | zero =>
              obtain ⟨g, outer', rfl, hreached⟩ := h.leaves horderly hclose hcounted
              exact ⟨_, _, step_leaves hclose hcounted, hreached⟩
      | false =>
          cases hinline : t.isInline with
          | true => exact ⟨_, _, step_inlines hinline, h.inlines hinline⟩
          | false =>
              cases hkind : t.blockKind? with
              | none =>
                  exact ⟨_, _, step_skips hopen hclose hinline hkind,
                    h.skips horderly hopen hclose hinline hkind⟩
              | some kind =>
                  obtain ⟨b, hnew, hb⟩ := newBlock_ok lines hkind hdepth
                  have hstarts : Starts t kind { b with content := t.content } :=
                    ⟨hb.kind, hb.line, hb.level, hb.children⟩
                  refine ⟨f.add { b with content := t.content }, outer, ?_,
                    h.adds horderly hopen hclose hinline hkind hstarts⟩
                  rw [step_adds hopen hclose hinline hkind, hnew]
                  rfl

end Steps

/-- All tokens. -/
theorem Reached.run (h : Reached ts f outer) (horderly : Orderly (ts ++ rest)) : ∃ f' outer',
    (State.within f outer).run lines rest = .ok (.within f' outer')
      ∧ Reached (ts ++ rest) f' outer' := by
  induction rest generalizing ts f outer with
  | nil => exact ⟨f, outer, rfl, by rwa [List.append_nil]⟩
  | cons t rest ih =>
      obtain ⟨f₁, outer₁, hstep, h₁⟩ := h.step horderly
      rw [List.append_cons] at horderly ⊢
      obtain ⟨f', outer', hrun, h'⟩ := ih h₁ horderly
      refine ⟨f', outer', ?_, h'⟩
      rw [State.run, hstep]
      exact hrun

/-- **Blocks and tokens.** An orderly run of tokens has a tree, whose spans are what stands in
headings, and the outline of the tree is what the tokens ask for: each token that becomes a block
has one, in the order of the run, with the kind, the line and the level that the token gives it,
and around it are the blocks of the openings around the token. -/
theorem ofTokens_outline (file : Option String) (h : Orderly tokens) :
    ∃ d, ofTokens lines file tokens = .ok d ∧ d.Tidy ∧ d.IsOutline d.outline
      ∧ d.outline.map place = placesOf tokens := by
  obtain ⟨f, outer, hrun, hreached⟩ := (reached_nil file).run h
  have htidy := tidy_closeAll hreached.sound
  refine ⟨closeAll f outer, ?_, htidy, htidy.isOutline, ?_⟩
  · rw [ofTokens, hrun]
    rfl
  · rw [outline_closeAll hreached.sound, hreached.places]
    rfl

/-- A list with a section in its item: the section is no block, so that what stands in it is in
the item. -/
def sectioned : List Token :=
  [.opening "bullet_list_open" "ul" 0 5, .opening "list_item_open" "li" 0 5,
   .plain "section_open" 1, .opening "heading_open" "h2" 0 1,
   ⟨"inline", 0, "", none, "", "", [.text "Foo bar"]⟩, .closing "heading_close" "h2",
   .plain "section_close" (-1), .leaf "fence" "" 2 4, .closing "list_item_close" "li",
   .closing "bullet_list_close" "ul", .plain "hr" 0]

theorem ofTokens_outline_sectioned : Orderly sectioned ∧
    ∃ d, ofTokens [] none sectioned = .ok d ∧ d.Tidy ∧ d.IsOutline d.outline
      ∧ d.outline.map place =
        [⟨.unorderedList, 1, 0, []⟩, ⟨.listItem, 1, 0, [0]⟩, ⟨.heading, 1, 2, [1, 0]⟩,
         ⟨.codeBlock, 3, 0, [1, 0]⟩, ⟨.horizontalRule, 1, 0, []⟩] := by
  have horderly : Orderly sectioned := by decide
  have hplaces : placesOf sectioned =
      [⟨.unorderedList, 1, 0, []⟩, ⟨.listItem, 1, 0, [0]⟩, ⟨.heading, 1, 2, [1, 0]⟩,
       ⟨.codeBlock, 3, 0, [1, 0]⟩, ⟨.horizontalRule, 1, 0, []⟩] := by decide
  rw [← hplaces]
  exact ⟨horderly, ofTokens_outline none horderly⟩

end Tree

end Headline
