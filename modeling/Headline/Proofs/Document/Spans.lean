import Headline.Document.Tree
import Headline.Proofs.Document.Outline
import Mathlib.Data.List.Chain

/-!
# What the spans of a heading depend on

Spans are put together from the last token to the first. A span of code stands by itself; any
other token puts a text in front of what the later tokens give, and this is the text that it gives
to the label of an image, which may be empty (`spans_cons`). So the two ways to take the text of
tokens, as a label and as spans, agree (`contents_spans`), and all that is to be known of spans
comes from what a text in front does to them (`prependText_cases`).

The spans of a heading are flat: no text is empty, and no two texts stand side by side (`Flat`).
Texts put in front one after the other are one text (`prependText_append`), which is why neither
marks nor the cuts between texts are seen in the spans (`spans_eq_of_remarked`).
-/

namespace Headline

namespace Token

def isCode (t : Token) : Bool := t.name == "code_inline"

def isImage (t : Token) : Bool := t.name == "image"

/-- Whether a token gives nothing to a heading, as the marks of emphasis and of links. -/
def isMark (t : Token) : Bool := !t.isCode && !t.isText && !t.isImage && !t.isBreak

/-- Tokens that differ in marks, in empty texts, and in where texts are cut in two, be it in the
labels of images. -/
inductive Remarked : List Token → List Token → Prop where
  | mark (before after : List Token) {t : Token} (h : t.isMark = true) :
      Remarked (before ++ t :: after) (before ++ after)
  | empty (before after : List Token) {t : Token} (h : t.isText = true) (hempty : t.content = "") :
      Remarked (before ++ t :: after) (before ++ after)
  | cut (before after : List Token) {t u v : Token} (ht : t.isText = true) (hu : u.isText = true)
      (hv : v.isText = true) (hcut : t.content = u.content ++ v.content) :
      Remarked (before ++ t :: after) (before ++ u :: v :: after)
  | label (before after : List Token) {t : Token} {us : List Token} (h : t.isImage = true)
      (hlabel : Remarked t.children us) :
      Remarked (before ++ t :: after) (before ++ { t with children := us } :: after)
  | refl (ts : List Token) : Remarked ts ts
  | symm {ts us : List Token} (h : Remarked ts us) : Remarked us ts
  | trans {ts us vs : List Token} (h : Remarked ts us) (h' : Remarked us vs) : Remarked ts vs

variable {t : Token}

theorem labelText_eq (t : Token) : t.labelText =
    if t.isCode || t.isText then t.content
    else if t.isImage then labelTexts t.children
    else if t.isBreak then "\n"
    else "" := by
  obtain ⟨name, nesting, tag, span, content, markup, children⟩ := t
  rw [labelText]
  have horder : (name == "text" || name == "text_special" || name == "code_inline"
      || name == "html_inline") =
      (name == "code_inline" || (name == "text" || name == "text_special"
        || name == "html_inline")) := by
    ac_rfl
  rw [horder]
  rfl

theorem labelText_text (h : t.isText = true) : t.labelText = t.content := by
  rw [labelText_eq, h, Bool.or_true, if_pos rfl]

theorem labelText_code (h : t.isCode = true) : t.labelText = t.content := by
  rw [labelText_eq, h, Bool.true_or, if_pos rfl]

theorem labelText_mark (h : t.isMark = true) : t.labelText = "" := by
  simp only [isMark, Bool.and_eq_true, Bool.not_eq_true'] at h
  obtain ⟨⟨⟨hcode, htext⟩, himage⟩, hbreak⟩ := h
  simp [labelText_eq, hcode, htext, himage, hbreak]

theorem isCode_text (h : t.isText = true) : t.isCode = false := by
  simp only [isText, isCode, Bool.or_eq_true, beq_iff_eq] at h ⊢
  rcases h with (h | h) | h <;> simp [h]

theorem isCode_mark (h : t.isMark = true) : t.isCode = false := by
  simp only [isMark, Bool.and_eq_true, Bool.not_eq_true'] at h
  exact h.1.1.1

theorem labelText_image (h : t.isImage = true) : t.labelText = labelTexts t.children := by
  have hname : t.name = "image" := by simpa [isImage] using h
  simp [labelText_eq, isCode, isText, isImage, hname]

theorem isCode_image (h : t.isImage = true) : t.isCode = false := by
  have hname : t.name = "image" := by simpa [isImage] using h
  simp [isCode, hname]

end Token

namespace Block

open Token

variable {line : Int} {ts us : List Token} {t : Token} {spans' : List Block}

/-! ## A text in front -/

/-- What a text in front does to spans: an empty one nothing, any other goes into the first span
if that is a text, and is a span of its own otherwise. -/
theorem prependText_cases (line : Int) (text : String) (spans : List Block) :
    (text = "" ∧ prependText line text spans = spans)
    ∨ (text ≠ "" ∧ (∀ s ∈ spans.head?, s.kind ≠ .text)
      ∧ prependText line text spans = textSpan line text :: spans)
    ∨ (text ≠ "" ∧ ∃ s rest, spans = s :: rest ∧ s.kind = .text
      ∧ prependText line text spans =
        { s with content := text ++ s.content, raw := text ++ s.raw } :: rest) := by
  by_cases htext : text = ""
  · exact Or.inl ⟨htext, by simp [prependText, htext]⟩
  have hempty : text.isEmpty = false := by simpa using htext
  right
  cases spans with
  | nil => exact Or.inl ⟨htext, by simp, by simp [prependText, hempty]⟩
  | cons s rest =>
      by_cases hkind : s.kind = .text
      · exact Or.inr ⟨htext, s, rest, rfl, hkind, by simp [prependText, hempty, hkind]⟩
      · exact Or.inl ⟨htext, by simpa using hkind, by simp [prependText, hempty, hkind]⟩

@[simp] theorem prependText_empty (line : Int) (spans : List Block) :
    prependText line "" spans = spans := by
  simp [prependText]

theorem prependText_append (line : Int) (a b : String) (spans : List Block) :
    prependText line (a ++ b) spans = prependText line a (prependText line b spans) := by
  by_cases ha : a = ""
  · rw [ha, String.empty_append, prependText_empty]
  by_cases hb : b = ""
  · rw [hb, String.append_empty, prependText_empty]
  have ha' : a.isEmpty = false := by simpa using ha
  have hb' : b.isEmpty = false := by simpa using hb
  have hab : (a ++ b).isEmpty = false := by simp [ha]
  -- behind `a`, the text `b` has become a span or gone into one, which `a` then goes into
  cases spans with
  | nil => simp [prependText, ha', hb', hab, textSpan]
  | cons s rest =>
      by_cases hkind : s.kind = .text
      · simp [prependText, ha', hb', hab, hkind, String.append_assoc]
      · simp [prependText, ha', hb', hab, hkind, textSpan]

theorem contents_prependText (line : Int) (text : String) (spans : List Block) :
    String.join ((prependText line text spans).map content) =
      text ++ String.join (spans.map content) := by
  rcases prependText_cases line text spans with
    ⟨rfl, heq⟩ | ⟨-, -, heq⟩ | ⟨-, s, rest, rfl, -, heq⟩
  · rw [heq, String.empty_append]
  · rw [heq, List.map_cons, String.join_cons]
    rfl
  · rw [heq, List.map_cons, List.map_cons, String.join_cons, String.join_cons, String.append_assoc]

theorem codes_prependText (line : Int) (text : String) (spans : List Block) :
    (prependText line text spans).filter (·.kind = .inlineCode) =
      spans.filter (·.kind = .inlineCode) := by
  rcases prependText_cases line text spans with
    ⟨rfl, heq⟩ | ⟨-, -, heq⟩ | ⟨-, s, rest, rfl, hkind, heq⟩
  · rw [heq]
  · rw [heq]
    rfl
  · rw [heq, List.filter_cons_of_neg (by simp [hkind]), List.filter_cons_of_neg (by simp [hkind])]

/-! ## Tokens -/

theorem spans_code (h : t.isCode = true) (line : Int) (ts : List Token) :
    spans line (t :: ts) = codeSpan line t.markup t.content :: spans line ts := by
  rw [spans, if_pos (show (t.name == "code_inline") = true from h)]

/-- Any token but code puts its text in front. -/
theorem spans_cons (h : t.isCode = false) (line : Int) (ts : List Token) :
    spans line (t :: ts) = prependText line t.labelText (spans line ts) := by
  have hname : ¬(t.name == "code_inline") = true := by
    rw [show (t.name == "code_inline") = false from h]
    exact Bool.false_ne_true
  rw [spans, if_neg hname, labelText_eq, h, Bool.false_or, isImage]
  by_cases htext : t.isText = true
  · rw [if_pos htext, if_pos htext]
  by_cases himage : (t.name == "image") = true
  · rw [if_neg htext, if_neg htext, if_pos himage, if_pos himage]
  by_cases hbreak : t.isBreak = true
  · simp only [if_neg htext, if_neg himage, if_pos hbreak]
  · simp only [if_neg htext, if_neg himage, if_neg hbreak, prependText_empty]

/-- **Labels and spans.** The text of tokens in the label of an image is that of their spans, one
after the other. -/
theorem contents_spans (line : Int) (ts : List Token) :
    String.join ((spans line ts).map content) = labelTexts ts := by
  induction ts with
  | nil => rw [spans, labelTexts]; rfl
  | cons t ts ih =>
      rw [labelTexts]
      cases hcode : t.isCode with
      | true =>
          rw [spans_code hcode, List.map_cons, String.join_cons, ih, labelText_code hcode]
          rfl
      | false => rw [spans_cons hcode, contents_prependText, ih]

theorem labelTexts_append (ts us : List Token) :
    labelTexts (ts ++ us) = labelTexts ts ++ labelTexts us := by
  induction ts with
  | nil => rw [labelTexts, String.empty_append, List.nil_append]
  | cons t ts ih => rw [List.cons_append, labelTexts, labelTexts, ih, String.append_assoc]

theorem codes_spans (line : Int) (ts : List Token) :
    (spans line ts).filter (·.kind = .inlineCode) =
      (ts.filter isCode).map fun t => codeSpan line t.markup t.content := by
  induction ts with
  | nil => rw [spans]; rfl
  | cons t ts ih =>
      cases hcode : t.isCode with
      | true =>
          rw [spans_code hcode, List.filter_cons_of_pos hcode, List.map_cons, ← ih]
          rfl
      | false =>
          rw [spans_cons hcode, codes_prependText, ih, List.filter_cons_of_neg (by simp [hcode])]

/-- Tokens without code put the text of all of them in front. -/
theorem spans_append_of_no_code (hcode : ∀ t ∈ ts, t.isCode = false) (line : Int)
    (after : List Token) :
    spans line (ts ++ after) = prependText line (labelTexts ts) (spans line after) := by
  induction ts with
  | nil => rw [labelTexts, prependText_empty, List.nil_append]
  | cons t ts ih =>
      obtain ⟨ht, hts⟩ := List.forall_mem_cons.mp hcode
      rw [List.cons_append, spans_cons ht, ih hts, labelTexts, prependText_append]

/-- What comes before tokens sees only their spans. -/
theorem spans_append_congr (h : spans line ts = spans line us) (before : List Token) :
    spans line (before ++ ts) = spans line (before ++ us) := by
  induction before with
  | nil => exact h
  | cons t before ih =>
      rw [List.cons_append, List.cons_append]
      cases hcode : t.isCode with
      | true => rw [spans_code hcode, spans_code hcode, ih]
      | false => rw [spans_cons hcode, spans_cons hcode, ih]

theorem spans_eq_of_remarked (h : Remarked ts us) (line : Int) : spans line ts = spans line us := by
  induction h with
  | mark before after h =>
      refine spans_append_congr ?_ before
      rw [spans_cons (isCode_mark h), labelText_mark h, prependText_empty]
  | empty before after h hempty =>
      refine spans_append_congr ?_ before
      rw [spans_cons (isCode_text h), labelText_text h, hempty, prependText_empty]
  | cut before after ht hu hv hcut =>
      refine spans_append_congr ?_ before
      rw [spans_cons (isCode_text ht), spans_cons (isCode_text hu), spans_cons (isCode_text hv),
        labelText_text ht, labelText_text hu, labelText_text hv, hcut, prependText_append]
  | @label before after t us h hlabel ih =>
      have himage : Token.isImage { t with children := us } = true := h
      have htext : labelTexts t.children = labelTexts us := by
        rw [← contents_spans line, ih, contents_spans]
      refine spans_append_congr ?_ before
      rw [spans_cons (isCode_image h), spans_cons (isCode_image himage), labelText_image h,
        labelText_image himage, htext]
  | refl ts => rfl
  | symm h ih => exact ih.symm
  | trans h h' ih ih' => exact ih.trans ih'

/-! ## The form of spans -/

/-- Spans of text and code on a line. No text is empty, each is its own source, and no two texts
stand side by side. -/
structure Flat (line : Int) (spans : List Block) : Prop where
  kinds : ∀ s ∈ spans, s.kind = .text ∨ s.kind = .inlineCode
  lines : ∀ s ∈ spans, s.line = line
  filled : ∀ s ∈ spans, s.kind = .text → s.content ≠ "" ∧ s.raw = s.content
  apart : spans.IsChain fun a b => ¬(a.kind = .text ∧ b.kind = .text)

theorem Flat.code (h : Flat line spans') (mark content : String) :
    Flat line (codeSpan line mark content :: spans') where
  kinds := List.forall_mem_cons.mpr ⟨Or.inr rfl, h.kinds⟩
  lines := List.forall_mem_cons.mpr ⟨rfl, h.lines⟩
  filled := List.forall_mem_cons.mpr ⟨nofun, h.filled⟩
  apart := List.isChain_cons.mpr ⟨fun _ _ hboth => absurd hboth.1 nofun, h.apart⟩

theorem Flat.prependText (h : Flat line spans') (text : String) :
    Flat line (prependText line text spans') := by
  rcases prependText_cases line text spans' with
    ⟨-, heq⟩ | ⟨htext, hhead, heq⟩ | ⟨htext, s, rest, rfl, hkind, heq⟩
  · rw [heq]
    exact h
  · rw [heq]
    exact {
      kinds := List.forall_mem_cons.mpr ⟨Or.inl rfl, h.kinds⟩
      lines := List.forall_mem_cons.mpr ⟨rfl, h.lines⟩
      filled := List.forall_mem_cons.mpr ⟨fun _ => ⟨htext, rfl⟩, h.filled⟩
      apart := List.isChain_cons.mpr ⟨fun s hs hboth => hhead s hs hboth.2, h.apart⟩ }
  · obtain ⟨hkinds, hlines, hfilled, hapart⟩ := h
    obtain ⟨hkind₀, hkinds⟩ := List.forall_mem_cons.mp hkinds
    obtain ⟨hline₀, hlines⟩ := List.forall_mem_cons.mp hlines
    obtain ⟨hfilled₀, hfilled⟩ := List.forall_mem_cons.mp hfilled
    obtain ⟨hhead, hrest⟩ := List.isChain_cons.mp hapart
    have hnonempty : text ++ s.content ≠ "" := by simp [htext]
    have hraw : text ++ s.raw = text ++ s.content := by rw [(hfilled₀ hkind).2]
    rw [heq]
    exact {
      kinds := List.forall_mem_cons.mpr ⟨hkind₀, hkinds⟩
      lines := List.forall_mem_cons.mpr ⟨hline₀, hlines⟩
      filled := List.forall_mem_cons.mpr ⟨fun _ => ⟨hnonempty, hraw⟩, hfilled⟩
      apart := List.isChain_cons.mpr ⟨hhead, hrest⟩ }

theorem flat_spans (line : Int) (ts : List Token) : Flat line (spans line ts) := by
  induction ts with
  | nil =>
      rw [spans]
      exact ⟨nofun, nofun, nofun, .nil⟩
  | cons t ts ih =>
      cases hcode : t.isCode with
      | true =>
          rw [spans_code hcode]
          exact ih.code _ _
      | false =>
          rw [spans_cons hcode]
          exact ih.prependText _

end Block

/-! ## Headings -/

namespace Tree

open Block Token

theorem addInline_heading {f : Frame} (h : f.block.kind = .heading) (t : Token) :
    (f.addInline t).block.content = labelTexts t.children
      ∧ (turned (f.addInline t).block).children = spans f.block.line t.children := by
  rw [Frame.addInline]
  simp only [if_pos h, contents_spans, turned, List.reverse_reverse, and_self]

/-- **Labels and spans agree.** The text of tokens as the label of an image is that of their spans,
one after the other. So it is the content of a heading with these tokens, and to make some of them
the label of an image does not change this content; nor does it change the text of the heading if
there is no code among them. -/
theorem label_agrees_with_spans :
    (∀ line ts, labelTexts ts = String.join ((spans line ts).map Block.content))
    ∧ ∀ (f : Frame) (t : Token), f.block.kind = .heading →
      (f.addInline t).block.content = labelTexts t.children
      ∧ ∀ before ts after image u, t.children = before ++ (ts ++ after) →
        image.isImage = true → image.children = ts → u.children = before ++ image :: after →
          (f.addInline u).block.content = (f.addInline t).block.content
          ∧ ((∀ x ∈ ts, x.isCode = false) → (turned (f.addInline u).block).headingText =
            (turned (f.addInline t).block).headingText) := by
  refine ⟨fun line ts => (contents_spans line ts).symm, fun f t hkind => ?_⟩
  obtain ⟨hcontent, hspans⟩ := addInline_heading hkind t
  refine ⟨hcontent, ?_⟩
  rintro before _ after image u ht himage rfl hu
  obtain ⟨hcontent', hspans'⟩ := addInline_heading hkind u
  constructor
  · rw [hcontent, hcontent', ht, hu]
    simp only [labelTexts_append, labelTexts, labelText_image himage]
  · intro hcode
    have hwrapped : spans f.block.line (image :: after) =
        spans f.block.line (image.children ++ after) := by
      rw [spans_cons (isCode_image himage), labelText_image himage, spans_append_of_no_code hcode]
    rw [headingText, headingText, hspans, hspans', ht, hu, spans_append_congr hwrapped]

/-- A heading of which no text has been read. -/
def opened : Frame := ⟨⟨.heading, "", "## Foo **bar** `baz`", 1, 2, none, []⟩, 0⟩

/-- The text `Foo bar baz` of a heading, with code at its end and a strong word before. -/
def strong : Token :=
  ⟨"inline", 0, "", none, "", "",
    [.text "Foo "] ++ ([.plain "strong_open" 1, .text "bar", .plain "strong_close" (-1)]
      ++ [⟨"code_inline", 0, "", none, "baz", "`", []⟩])⟩

/-- The same with the strong word in the label of an image. -/
def labelled : Token :=
  let label := [.plain "strong_open" 1, .text "bar", .plain "strong_close" (-1)]
  { strong with children := [.text "Foo "] ++ ⟨"image", 0, "", none, "", "", label⟩
      :: [⟨"code_inline", 0, "", none, "baz", "`", []⟩] }

theorem label_agrees_with_spans_strong : opened.block.kind = .heading
    ∧ (opened.addInline labelled).block.content = (opened.addInline strong).block.content
    ∧ (turned (opened.addInline labelled).block).headingText =
      (turned (opened.addInline strong).block).headingText := by
  have hkind : opened.block.kind = .heading := rfl
  obtain ⟨-, hwrap⟩ := label_agrees_with_spans.2 opened strong hkind
  obtain ⟨hcontent, htext⟩ := hwrap _ _ _ _ labelled rfl rfl rfl rfl
  exact ⟨hkind, hcontent, htext (by decide)⟩

end Tree

end Headline
