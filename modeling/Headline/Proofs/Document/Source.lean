import Headline.Document.Reader
import Headline.Markdown.Reader
import Headline.Proofs.Document.Step
import Headline.Proofs.Text.Lines
import Mathlib.Data.List.Forall2

/-!
# The source that a block shows

A token names the lines on which its block stands, as Markdown counts them. The source of the
block is cut from the lines of the text at all boundaries, by the same numbers. While a tree is
built, each block gets its source when it is started and keeps it: the blocks of the tree, in
document order, are started by tokens in the order of the run (`ofTokens_excerpts`). This needs
nothing of the run, since blocks may be lost on the way but are never made up.

So a block shows its own lines exactly if no boundary but Markdown's breaks stands in them, and if
those that stand further ahead make no difference (`ofText_source`).
-/

namespace Headline

open Text

/-! ## What is to be shown -/

/-- What a block tells of the text: its kind, the line on which it starts, and its source. -/
structure Excerpt where
  kind : BlockKind
  line : Int
  source : String
deriving DecidableEq

/-- The source that a token asks for. -/
def Token.source (lines : List String) (t : Token) : String :=
  let (first, last) := t.span.getD (0, 0)
  "\n".intercalate (Tree.slice lines first last)

/-- What the block of a token is to tell, if the token becomes one. -/
def Token.excerpt? (lines : List String) (t : Token) : Option Excerpt :=
  t.blockKind?.map fun kind => ⟨kind, t.line, t.source lines⟩

namespace Block

def excerpt (b : Block) : Excerpt := ⟨b.kind, b.line, b.raw⟩

/-- What blocks tell, and those below them, in document order. -/
def excerpts (bs : List Block) : List Excerpt :=
  ((walkAll none bs).filter (!·.isSpan)).map excerpt

theorem excerpts_append (as bs : List Block) :
    excerpts (as ++ bs) = excerpts as ++ excerpts bs := by
  simp only [excerpts, walkAll_none, List.flatMap_append, List.filter_append, List.map_append]

theorem excerpts_singleton {b : Block} (hb : b.isSpan = false) :
    excerpts [b] = b.excerpt :: excerpts b.children := by
  have hwalk : walkAll none [b] = b :: walkAll none b.children := by
    rw [walkAll_none, List.flatMap_cons, List.flatMap_nil, List.append_nil, walk_none,
      ← walkAll_none]
  rw [excerpts, hwalk, List.filter_cons_of_pos (by simp [hb])]
  rfl

theorem excerpts_spans {bs : List Block} (h : ∀ b ∈ bs, b.isSpan = true ∧ b.children = []) :
    excerpts bs = [] := by
  have hspans : ∀ b ∈ walkAll none bs, b.isSpan = true := by
    intro b hb
    rw [walkAll_none] at hb
    obtain ⟨c, hc, hb⟩ := List.mem_flatMap.mp hb
    obtain ⟨hspan, hchildren⟩ := h c hc
    rw [walk_none, hchildren] at hb
    obtain rfl := List.mem_singleton.mp hb
    exact hspan
  rw [excerpts, List.filter_eq_nil_iff.mpr fun b hb => by simp [hspans b hb], List.map_nil]

end Block

namespace Tree

open Block

variable {lines : List String} {t : Token} {f g : Frame} {outer : List Frame} {b child : Block}
  {kind : BlockKind} {s s' : State}

theorem newBlock_excerpt (h : newBlock lines kind t = .ok b) :
    b.excerpt = ⟨kind, t.line, t.source lines⟩ ∧ b.children = [] := by
  have hline : t.line = (t.span.getD (0, 0)).1 + 1 := by
    cases hspan : t.span <;> simp [Token.line, hspan]
  rw [newBlock] at h
  by_cases hkind : kind = .heading
  · simp only [if_pos hkind] at h
    cases hlevel : readInt 10 (String.ofList (t.tag.toList.drop 1)) with
    | error e =>
        rw [hlevel] at h
        cases h
    | ok n =>
        rw [hlevel] at h
        cases h
        rw [hline]
        exact ⟨rfl, rfl⟩
  · simp only [if_neg hkind] at h
    cases h
    rw [hline]
    exact ⟨rfl, rfl⟩

theorem isSpan_newBlock (hkind : t.blockKind? = some kind) (h : newBlock lines kind t = .ok b) :
    b.isSpan = false := by
  obtain ⟨hexcerpt, -⟩ := newBlock_excerpt h
  have hb : b.kind = kind := congrArg Excerpt.kind hexcerpt
  obtain ⟨htext, hcode, -⟩ := blockKind?_cases hkind
  simp [isSpan, hb, htext, hcode]

/-! ## What was told so far -/

/-- What the open blocks and all finished ones tell. -/
def told (f : Frame) : List Frame → List Excerpt
  | [] => excerpts f.block.children.reverse
  | g :: outer => told g outer ++ f.block.excerpt :: excerpts f.block.children.reverse

def State.told : State → List Excerpt
  | .within f outer => Tree.told f outer
  | .lost d _ => excerpts d.children

/-- No span is open. -/
def State.NoSpan : State → Prop
  | .within f outer => f.block.isSpan = false ∧ ∀ g ∈ outer, g.block.isSpan = false
  | .lost _ _ => True

theorem told_congr (hexcerpt : f.block.excerpt = g.block.excerpt)
    (hchildren : f.block.children = g.block.children) : told f outer = told g outer := by
  cases outer with
  | nil => rw [told, told, hchildren]
  | cons h outer => rw [told, told, hexcerpt, hchildren]

theorem told_open (hb : b.children = []) :
    told ⟨b, 0⟩ (f :: outer) = told f outer ++ [b.excerpt] := by
  rw [told, hb]
  rfl

theorem told_add (hchild : child.isSpan = false) :
    told (f.add child) outer = told f outer ++ child.excerpt :: excerpts child.children := by
  have hmore : excerpts (f.add child).block.children.reverse =
      excerpts f.block.children.reverse ++ child.excerpt :: excerpts child.children := by
    rw [← excerpts_singleton hchild, ← excerpts_append, Frame.add, List.reverse_cons]
  cases outer with
  | nil => exact hmore
  | cons g outer =>
      rw [told, told, hmore, List.append_assoc]
      rfl

/-- To finish a block does not change what is told. -/
theorem told_leave (hf : f.block.isSpan = false) :
    told (g.add (turned f.block)) outer = told f (g :: outer) := by
  have hturned : (turned f.block).isSpan = false := hf
  rw [told_add hturned]
  rfl

/-- A heading takes its spans in place of all children, so that blocks below it are lost. -/
theorem told_addInline (f : Frame) (outer : List Frame) (t : Token) :
    (told (f.addInline t) outer).Sublist (told f outer) := by
  by_cases hkind : f.block.kind = .heading
  · obtain ⟨content, heq⟩ := addInline_of_heading (t := t) hkind
    have hspans : excerpts (spans f.block.line t.children).reverse.reverse = [] := by
      rw [List.reverse_reverse]
      exact excerpts_spans (spans_childless _ _)
    rw [heq]
    cases outer with
    | nil =>
        rw [told, hspans]
        exact List.nil_sublist _
    | cons g outer =>
        rw [told, hspans, told]
        exact (List.nil_sublist _).cons_cons _ |>.append_left _
  · obtain ⟨content, heq⟩ := addInline_of_ne (t := t) hkind
    have hsame : told (f.addInline t) outer = told f outer := by
      rw [heq]
      exact told_congr rfl rfl
    rw [hsame]

/-- A token adds at most the block that it starts. -/
theorem Stepped.told (h : Stepped lines t s s') (hs : s.NoSpan) :
    s'.NoSpan ∧ s'.told.Sublist (s.told ++ (t.excerpt? lines).toList) := by
  cases h with
  | counts f outer n hkind =>
      have hcount : Tree.told { f with counted := n } outer = Tree.told f outer :=
        told_congr rfl rfl
      exact ⟨hs, by rw [State.told, hcount]; exact List.sublist_append_left _ _⟩
  | opens f outer hkind hnew =>
      obtain ⟨hexcerpt, hchildren⟩ := newBlock_excerpt hnew
      refine ⟨⟨isSpan_newBlock hkind hnew, List.forall_mem_cons.mpr hs⟩, ?_⟩
      rw [State.told, told_open hchildren, hexcerpt, Token.excerpt?, hkind]
      exact List.Sublist.refl _
  | leaves f outer hkind =>
      cases outer with
      | nil => exact ⟨trivial, List.sublist_append_left _ _⟩
      | cons g outer =>
          refine ⟨List.forall_mem_cons.mp hs.2, ?_⟩
          rw [State.leave, State.told, told_leave hs.1]
          exact List.sublist_append_left _ _
  | inlines f outer hkind =>
      refine ⟨⟨?_, hs.2⟩, (told_addInline f outer t).trans (List.sublist_append_left _ _)⟩
      rw [isSpan, (addInline_same f t).1]
      exact hs.1
  | @adds f outer kind b hkind hnew =>
      obtain ⟨hexcerpt, hchildren⟩ := newBlock_excerpt hnew
      have hb : b.isSpan = false := isSpan_newBlock hkind hnew
      have hspan : isSpan { b with content := t.content } = false := hb
      -- the content is put in afterwards and is no part of what a block tells
      have hsame : excerpt { b with content := t.content } = b.excerpt := rfl
      refine ⟨hs, ?_⟩
      rw [State.told, told_add hspan, hsame, hexcerpt, hchildren, Token.excerpt?, hkind]
      exact List.Sublist.refl _
  | skips f outer hkind => exact ⟨hs, List.sublist_append_left _ _⟩
  | lost d m n hkind => exact ⟨trivial, List.sublist_append_left _ _⟩

/-! ## All tokens -/

theorem State.run_told {ts : List Token} (hs : s.NoSpan) (h : s.run lines ts = .ok s') :
    s'.NoSpan ∧ s'.told.Sublist (s.told ++ ts.filterMap (Token.excerpt? lines)) := by
  induction ts generalizing s with
  | nil =>
      cases h
      exact ⟨hs, by rw [List.filterMap_nil, List.append_nil]⟩
  | cons t ts ih =>
      rw [State.run] at h
      cases hstep : s.step lines t with
      | error e =>
          rw [hstep] at h
          cases h
      | ok s₁ =>
          rw [hstep] at h
          obtain ⟨hs₁, htold₁⟩ := (stepped hstep).told hs
          obtain ⟨hs', htold'⟩ := ih hs₁ h
          refine ⟨hs', htold'.trans ?_⟩
          have hsplit : (t :: ts).filterMap (Token.excerpt? lines) =
              (t.excerpt? lines).toList ++ ts.filterMap (Token.excerpt? lines) := by
            rw [List.filterMap_cons]
            cases t.excerpt? lines <;> rfl
          rw [hsplit, ← List.append_assoc]
          exact htold₁.append_right _

theorem told_closeAll (hf : f.block.isSpan = false) (houter : ∀ g ∈ outer, g.block.isSpan = false) :
    excerpts (closeAll f outer).children = told f outer := by
  induction outer generalizing f with
  | nil => rfl
  | cons g outer ih =>
      obtain ⟨hg, houter⟩ := List.forall_mem_cons.mp houter
      have hadd : (g.add (turned f.block)).block.isSpan = false := hg
      rw [closeAll, ih hadd houter, told_leave hf]

theorem State.told_document (hs : s.NoSpan) : excerpts s.document.children = s.told := by
  cases s with
  | within f outer => exact told_closeAll hs.1 hs.2
  | lost d n => rfl

/-- **Blocks are started by tokens.** What the blocks of a tree tell, in document order, is what
tokens of the run ask for, in their order. -/
theorem ofTokens_excerpts {file : Option String} {tokens : List Token} {d : Block}
    (h : ofTokens lines file tokens = .ok d) :
    (((d.walk none).filter (!·.isSpan)).map excerpt).Sublist
      (tokens.filterMap (Token.excerpt? lines)) := by
  rw [ofTokens] at h
  cases hrun : (State.within ⟨Block.document file [], 0⟩ []).run lines tokens with
  | error e =>
      rw [hrun] at h
      cases h
  | ok s =>
      rw [hrun] at h
      cases h
      have hstart : (State.within ⟨Block.document file [], 0⟩ []).NoSpan :=
        ⟨rfl, List.forall_mem_nil _⟩
      obtain ⟨hs, htold⟩ := State.run_told hstart hrun
      rw [walk_none, ← walkAll_none]
      show (excerpts s.document.children).Sublist _
      rw [State.told_document hs]
      exact htold

end Tree

/-! ## Lines of a text -/

namespace Document

/-- The text of lines from one up to another. -/
def extract (lines : List (List Char)) (first last : Nat) : String :=
  "\n".intercalate (((lines.take last).drop first).map String.ofList)

theorem slice_natCast {α : Type} (xs : List α) (first last : Nat) :
    Tree.slice xs first last = (xs.take last).drop first := by
  have hindex : ∀ i : Nat, Tree.clampIndex xs.length i = min i xs.length := by
    intro i
    rw [Tree.clampIndex, if_neg (by omega), Int.toNat_natCast]
  have htake : xs.take (min last xs.length) = xs.take last := by
    rw [← List.take_take, List.take_length]
  rw [Tree.slice, hindex, hindex, htake]
  by_cases hfirst : first ≤ xs.length
  · rw [Nat.min_eq_left hfirst]
  · rw [List.drop_eq_nil_of_le (by rw [List.length_take]; omega),
      List.drop_eq_nil_of_le (by rw [List.length_take]; omega)]

theorem source_eq {text : String} {t : Token} {first last : Nat}
    (h : t.span = some (↑first, ↑last)) :
    t.source (sourceLines text) = extract (splitLines text.toList) first last := by
  rw [Token.source, h, extract, sourceLines, List.map_drop, List.map_take]
  show "\n".intercalate (Tree.slice _ (first : Int) (last : Int)) = _
  rw [slice_natCast]

theorem mem_intercalate {c d : Char} {ls : List (List Char)} :
    c ∈ [d].intercalate ls → c = d ∨ ∃ l ∈ ls, c ∈ l := by
  induction ls with
  | nil => exact fun h => nomatch h
  | cons l ls ih =>
      cases ls with
      | nil => exact fun h => Or.inr ⟨l, List.mem_singleton_self l, by simpa using h⟩
      | cons m ls =>
          intro h
          rw [List.intercalate_cons_cons, List.mem_append, List.mem_append, List.mem_singleton] at h
          rcases h with (h | h) | h
          · exact Or.inr ⟨l, List.mem_cons_self .., h⟩
          · exact Or.inl h
          · refine (ih h).imp_right ?_
            rintro ⟨l', hl', hc⟩
            exact ⟨l', List.mem_cons_of_mem _ hl', hc⟩

theorem mem_intercalate_of_mem {c d : Char} {l : List Char} {ls : List (List Char)} (hl : l ∈ ls)
    (hc : c ∈ l) : c ∈ [d].intercalate ls := by
  induction ls with
  | nil => cases hl
  | cons m ls ih =>
      cases ls with
      | nil =>
          obtain rfl := List.mem_singleton.mp hl
          simpa using hc
      | cons m' ls =>
          rw [List.intercalate_cons_cons, List.mem_append, List.mem_append]
          rcases List.mem_cons.mp hl with rfl | hl
          · exact Or.inl (Or.inl hc)
          · exact Or.inr (ih hl)

theorem toList_extract (lines : List (List Char)) (first last : Nat) :
    (extract lines first last).toList = ['\n'].intercalate ((lines.take last).drop first) := by
  have hchars : ∀ ls : List (List Char), (ls.map String.ofList).map String.toList = ls := by
    intro ls
    simp [Function.comp_def]
  rw [extract, String.toList_intercalate, hchars]
  rfl

/-- A cut at all boundaries gives a text in which no boundary stands but line feeds. -/
theorem boundary_of_mem_extract {text : List Char} {first last : Nat} {c : Char}
    (h : c ∈ (extract (splitLines text) first last).toList) :
    c = '\n' ∨ isLineBoundary c = false := by
  rw [toList_extract] at h
  refine (mem_intercalate h).imp_right ?_
  rintro ⟨l, hl, hc⟩
  exact plain_of_mem_splitLines (List.mem_of_mem_take (List.mem_of_mem_drop hl)) c hc

/-- Lines that are shown as they are hold no boundary. -/
theorem plain_of_extract_eq {text : List Char} {i j first last : Nat}
    (h : extract (splitLines text) i j = extract (markdownLines text) first last) :
    ∀ l ∈ ((markdownLines text).take last).drop first, Plain l := by
  intro l hl c hc
  have hmem : c ∈ (extract (splitLines text) i j).toList := by
    rw [h, toList_extract]
    exact mem_intercalate_of_mem hl hc
  have hunbroken := (cut_markdownLines text).unbroken
    (List.mem_of_mem_take (List.mem_of_mem_drop hl))
  refine (boundary_of_mem_extract hmem).resolve_left ?_
  rintro rfl
  exact hunbroken.1 hc

/-- Members that make up what others make are made in order, each by one of them. -/
theorem exists_forall₂_of_sublist {α β γ : Type} {f : α → γ} {g : β → Option γ} :
    ∀ {xs : List α} {ys : List β}, (xs.map f).Sublist (ys.filterMap g) →
      ∃ zs, zs.Sublist ys ∧ List.Forall₂ (fun z x => g z = some (f x)) zs xs := by
  intro xs ys h
  induction ys generalizing xs with
  | nil =>
      rw [List.filterMap_nil, List.sublist_nil, List.map_eq_nil_iff] at h
      subst h
      exact ⟨[], List.Sublist.refl _, .nil⟩
  | cons y ys ih =>
      rw [List.filterMap_cons] at h
      cases hy : g y with
      | none =>
          rw [hy] at h
          obtain ⟨zs, hsub, hmade⟩ := ih h
          exact ⟨zs, hsub.cons y, hmade⟩
      | some v =>
          rw [hy] at h
          cases xs with
          | nil => exact ⟨[], List.nil_sublist _, .nil⟩
          | cons x xs =>
              rw [List.map_cons] at h
              cases h with
              | cons _ h =>
                  have hrest : ((x :: xs).map f).Sublist (ys.filterMap g) := h
                  obtain ⟨zs, hsub, hmade⟩ := ih hrest
                  exact ⟨zs, hsub.cons y, hmade⟩
              | cons_cons _ h =>
                  obtain ⟨zs, hsub, hmade⟩ := ih h
                  exact ⟨y :: zs, hsub.cons_cons y, .cons hy hmade⟩

/-- **The source of a block.** The blocks of a document are started by tokens of its text, in
their order, each on the line of its token, whatever cuts the text into tokens. Where the token
names lines, the block shows the lines with these numbers in a cut at all boundaries. So it shows
its own lines, those that Markdown counts, exactly if no boundary stands in them, and if it shows
the same as would be found as many lines further down as there are boundaries in the lines before
it. In particular it does so if no boundary stands in the text up to its end. -/
theorem ofText_source {tokenize : Markdown.Tokenizer} {text file : String} {d : Block}
    (h : ofText tokenize text file = .ok d) :
    ∃ ts, ts.Sublist (tokenize text) ∧
      List.Forall₂ (fun t b => t.blockKind? = some b.kind ∧ b.line = t.line ∧
        ∀ first last : Nat, t.span = some (↑first, ↑last) →
          let counted := markdownLines text.toList
          let cut := splitLines text.toList
          let before := boundaries (counted.take first)
          b.raw = extract cut first last
            ∧ (b.raw = extract counted first last ↔
                (∀ l ∈ (counted.take last).drop first, Plain l)
                  ∧ b.raw = extract cut (first + before) (last + before))
            ∧ ((∀ l ∈ counted.take last, Plain l) → b.raw = extract counted first last))
        ts ((d.walk none).filter (!·.isSpan)) := by
  obtain ⟨ts, hsub, hmade⟩ := exists_forall₂_of_sublist (Tree.ofTokens_excerpts h)
  refine ⟨ts, hsub, hmade.imp fun t b hb => ?_⟩
  obtain ⟨kind, hkind, hexcerpt⟩ := Option.map_eq_some_iff.mp hb
  obtain ⟨rfl, hline, hsource⟩ := Excerpt.mk.injEq .. |>.mp hexcerpt
  refine ⟨hkind, hline.symm, fun first last hspan => ?_⟩
  intro counted cut before
  have hcut := cut_markdownLines text.toList
  have hraw : b.raw = extract cut first last := by
    rw [← hsource]
    exact source_eq hspan
  have hfound : (∀ l ∈ (counted.take last).drop first, Plain l) →
      extract cut (first + before) (last + before) = extract counted first last := by
    intro hplain
    rw [extract, hcut.slice_splitLines first last hplain, extract]
  refine ⟨hraw, ⟨fun hown => ?_, fun ⟨hplain, hdown⟩ => ?_⟩, fun hplain => ?_⟩
  · -- what is shown holds no boundary, so lines that are shown as they are hold none either
    have hplain := plain_of_extract_eq (hraw.symm.trans hown)
    exact ⟨hplain, hown.trans (hfound hplain).symm⟩
  · exact hdown.trans (hfound hplain)
  · rw [hraw, extract, hcut.take_splitLines last hplain, extract]

/-- A form feed stands in the line before the heading. -/
def formFeed : String := "a\x0cb\n# Foo\n"

/-- The paragraph shows the part before the form feed, and the heading the part behind it. -/
theorem ofText_source_formFeed : ∃ d ts,
    ofText Markdown.tokens formFeed "" = .ok d
    ∧ ts.Sublist (Markdown.tokens formFeed)
    ∧ List.Forall₂ (fun t b => t.blockKind? = some b.kind ∧ ∀ first last : Nat,
        t.span = some (↑first, ↑last) →
          b.raw = extract (splitLines formFeed.toList) first last)
      ts ((d.walk none).filter (!·.isSpan))
    ∧ ((d.walk none).filter (!·.isSpan)).map (·.raw) = ["a", "b"] := by
  have hread : (ofText Markdown.tokens formFeed "").toOption.map
      (fun d => ((d.walk none).filter (!·.isSpan)).map (·.raw)) = some ["a", "b"] := by
    decide +kernel
  cases h : ofText Markdown.tokens formFeed "" with
  | error fault =>
      rw [h] at hread
      cases hread
  | ok d =>
      rw [h] at hread
      obtain ⟨ts, hsub, hshown⟩ := ofText_source h
      refine ⟨d, ts, rfl, hsub, hshown.imp fun t b hb => ?_, Option.some.inj hread⟩
      exact ⟨hb.1, fun first last hspan => (hb.2.2 first last hspan).1⟩

/-- The heading does not show its own line. -/
theorem heading_source_formFeed :
    (ofText Markdown.tokens formFeed "").toOption.map (fun d => d.headings.map (·.raw)) = some ["b"]
      ∧ ((Markdown.tokens formFeed).filter Token.opensHeading).map (·.span) = [some (1, 2)]
      ∧ extract (markdownLines formFeed.toList) 1 2 = "# Foo" := by
  decide +kernel

end Document

end Headline
