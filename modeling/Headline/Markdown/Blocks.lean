import Headline.Document.Token
import Headline.Markdown.Definition

/-!
# Block structure

The lines of a view are divided into blocks, from the top. Each kind of block is tried in a
fixed order at the first line that is not blank; a paragraph is what nothing else takes.
Quotes and list items have a view of their own, in which their marks are cut off, and their
content is divided in the same way. Nesting is limited: inside of the last level that is
allowed, content is skipped.

The tokens of text inside a block hold the text only. It is read when all labels are known.
-/

namespace Headline.Markdown

open Text

/-- What some lines come to. -/
structure Piece where
  tokens : List Token
  /-- the labels that are defined there, in order -/
  labels : Labels
  /-- the line after them -/
  next : Nat
deriving Repr

namespace Piece

/-- A piece that defines no label. -/
def ofTokens (tokens : List Token) (next : Nat) : Piece := ⟨tokens, [], next⟩

/-- Nothing, up to a line. -/
def nothing (next : Nat) : Piece := ⟨[], [], next⟩

def append (a b : Piece) : Piece := ⟨a.tokens ++ b.tokens, a.labels ++ b.labels, b.next⟩

/-- A piece between an opening and a closing token. -/
def wrap (name tag : String) (first : Nat) (p : Piece) : Piece :=
  ⟨Token.opening (name ++ "_open") tag first p.next :: p.tokens ++
    [Token.closing (name ++ "_close") tag], p.labels, p.next⟩

end Piece

/-- The token of a text that is still to be read. -/
def inlineToken (content : List Char) (first last : Nat) : Token :=
  Token.leaf "inline" (String.ofList content) first last

/-- A text between an opening and a closing token, on lines `first` to `last`; the text itself
ends before line `textEnd`. -/
def textBlock (name tag : String) (content : List Char) (first textEnd last : Nat) : Piece :=
  .wrap name tag first (.ofTokens [inlineToken content first textEnd] last)

namespace View

/-! ## Code, HTML and breaks -/

/-- The line after the last line of an indented block of code. `last` is the line after the
last one that is not blank so far. -/
def codeEnd (v : View) (stop : Nat) : Nat → Nat → Nat → Nat
  | 0, last, _ => last
  | fuel + 1, last, n =>
    if stop ≤ n then last
    else if v.isBlank n then codeEnd v stop fuel last (n + 1)
    else if v.isCode n then codeEnd v stop fuel (n + 1) (n + 1)
    else last

def codeBlock? (v : View) (n stop : Nat) : Option Piece :=
  if v.isCode n then
    let last := v.codeEnd stop (stop - n) (n + 1) (n + 1)
    let content := v.text n last (v.indent + 4).toNat ++ ['\n']
    some (.ofTokens [Token.leaf "code_block" (String.ofList content) n last] last)
  else none

/-- The line at which a fenced block of code ends, and whether a closing fence stands
there. -/
def fenceEnd (v : View) (f : Fence) (stop : Nat) : Nat → Nat → Nat × Bool
  | 0, n => (n, false)
  | fuel + 1, n =>
    if stop ≤ n then (n, false)
    else
      let l := v.line n
      if !l.isBlank && l.indent < v.indent then (n, false)
      else if l.content.isEmpty && l.atEnd then (n, false)
      else if !v.isCode n && f.isClosedBy l.content then (n, true)
      else fenceEnd v f stop fuel (n + 1)

def fencedCode? (v : View) (n stop : Nat) : Option Piece :=
  if v.isCode n then none
  else
    (fence? (v.content n)).map fun f =>
      let (last, isClosed) := v.fenceEnd f stop (stop - n) (n + 1)
      let next := if isClosed then last + 1 else last
      let content := v.fullText (n + 1) last (v.line n).indent.toNat
      .ofTokens [Token.leaf "fence" (String.ofList content) n next] next

/-- The line after a block of HTML. -/
def htmlEnd (v : View) (stop : Nat) (e : Html.BlockEnd) : Nat → Nat → Nat
  | 0, n => n
  | fuel + 1, n =>
    if stop ≤ n || (v.line n).indent < v.indent then n
    else
      let content := v.content n
      if e.isOn content then (if content.isEmpty then n else n + 1)
      else htmlEnd v stop e fuel (n + 1)

def htmlBlock? (v : View) (n stop : Nat) : Option Piece :=
  (v.htmlStart? n).map fun s =>
    let next :=
      if s.stop.isOn (v.content n) then n + 1 else v.htmlEnd stop s.stop (stop - n) (n + 1)
    let content := v.fullText n next v.indent.toNat
    .ofTokens [Token.leaf "html_block" (String.ofList content) n next] next

def thematicBreak? (v : View) (n : Nat) : Option Piece :=
  if v.breakAt n then some (.ofTokens [Token.leaf "hr" "" n (n + 1)] (n + 1)) else none

/-! ## Headings and paragraphs -/

def headingTag (level : Nat) : String := s!"h{level}"

/-- A heading marked by number signs. -/
def heading? (v : View) (n : Nat) : Option Piece :=
  if v.isCode n then none
  else
    (headingMark? (v.content n)).map fun (level, rest) =>
      textBlock "heading" (headingTag level) (headingBody rest) n (n + 1) (n + 1)

/-- The line that underlines a heading, and its depth. -/
def underline? (v : View) (stop : Nat) : Nat → Nat → Option (Nat × Nat)
  | 0, _ => none
  | fuel + 1, n =>
    if stop ≤ n || v.isBlank n then none
    else
      let l := v.line n
      if l.indent - v.indent > 3 then underline? v stop fuel (n + 1)
      else
        match if l.indent ≥ v.indent then underlineLevel? l.content else none with
        | some level => some (n, level)
        | none =>
          if l.indent < 0 || !v.endsParagraph n stop then underline? v stop fuel (n + 1) else none

/-- The text of the lines of a heading or a paragraph. -/
def paragraphText (v : View) (first last : Nat) : List Char :=
  trimBlank (v.text first last v.indent.toNat)

def underlinedHeading? (v : View) (n stop : Nat) : Option Piece :=
  if v.isCode n then none
  else
    (v.underline? stop (stop - n) (n + 1)).map fun (last, level) =>
      textBlock "heading" (headingTag level) (v.paragraphText n last) n last (last + 1)

def paragraphEnd (v : View) : Nat → Nat → Nat
  | 0, n => n
  | fuel + 1, n =>
    if v.limit ≤ n || v.isBlank n then n
    else
      let l := v.line n
      if l.indent - v.indent > 3 || l.indent < 0 || !v.endsParagraph n v.limit then
        paragraphEnd v fuel (n + 1)
      else n

def paragraph (v : View) (n : Nat) : Piece :=
  let next := v.paragraphEnd (v.limit - n) (n + 1)
  textBlock "paragraph" "p" (v.paragraphText n next) n next next

/-! ## Tables -/

/-- The cells that a table may have to add to short rows. -/
def addedCellLimit : Nat := 65536

def rowTokens (cell : String) (n : Nat) (cells : List (List Char)) : List Token :=
  Token.opening "tr_open" "tr" n (n + 1) ::
    cells.flatMap (fun c =>
      [Token.plain (cell ++ "_open") 1, inlineToken (trimBlank c) n (n + 1),
       Token.plain (cell ++ "_close") (-1)]) ++
    [Token.closing "tr_close" "tr"]

/-- The rows below the header, cut or filled up to `count` cells, and the line after them.
`added` is the balance of cells filled up and cut so far. -/
def tableRows (v : View) (count stop : Nat) : Nat → Int → Nat → List Token × Nat
  | 0, _, n => ([], n)
  | fuel + 1, added, n =>
    if stop ≤ n || (v.line n).indent < v.indent || v.endsQuote n ||
        (trimBlank (v.content n)).isEmpty || v.isCode n then ([], n)
    else
      let cells := rowCells (v.content n)
      let added := added + count - cells.length
      if added > addedCellLimit then ([], n)
      else
        let (rows, next) := tableRows v count stop fuel added (n + 1)
        (rowTokens "td" n ((cells ++ List.replicate count []).take count) ++ rows, next)

def table? (v : View) (n stop : Nat) : Option Piece :=
  (v.tableHeader? n stop).map fun header =>
    let (rows, next) := v.tableRows header.length stop (stop - n) 0 (n + 2)
    let head :=
      Token.plain "thead_open" 1 :: rowTokens "th" n header ++ [Token.plain "thead_close" (-1)]
    let body :=
      if rows.isEmpty then []
      else Token.plain "tbody_open" 1 :: rows ++ [Token.plain "tbody_close" (-1)]
    .wrap "table" "table" n (.ofTokens (head ++ body) next)

/-! ## Definitions -/

/-- The definition of a label, which leaves no token. -/
def definitionPiece? (v : View) (n : Nat) : Option Piece :=
  (v.definition? n).map fun (label, next) => ⟨[], [label], next⟩

/-! ## Quotes -/

/-- How the content of a nested view is divided into blocks: from a line up to another. -/
abbrev Nested := View → Nat → Nat → Piece

/-- A line of a quote without the mark. One space after the mark goes with it; of a tab only
a part may. -/
def quotedLine (l : Line) : Line :=
  let after := l.content.drop 1
  let start := l.indent.toNat + 1
  let line (start tabShift marked : Nat) (cs : List Char) : Line :=
    ⟨cs, (cs.takeWhile isIndent).length,
      indentWidth (l.column + tabShift) start cs - start, l.indent.toNat + 1 + marked, l.atEnd⟩
  match after with
  | ' ' :: cs => line (start + 1) 0 1 cs
  | '\t' :: cs =>
    if (l.column + start) % 4 = 3 then line (start + 1) 0 1 cs else line start 1 1 after
  | _ => line start 0 0 after

/-- The view of a quote and the line after it. The quote goes on as long as its mark comes
back; a line without the mark may go on with a paragraph, unless it is blank, follows a
blank line, or starts another block. In that last case paragraphs end there too. -/
def quoteView (v : View) : Nat → View → Bool → Nat → Nat → View × Nat
  | 0, q, _, _, n => (q, n)
  | fuel + 1, q, afterBlank, stop, n =>
    let l := v.line n
    if stop ≤ n || l.isBlank then (q, n)
    else if l.content.head? = some '>' && l.indent ≥ v.indent then
      let l := quotedLine l
      quoteView v fuel (q.mapLine n fun _ => l) l.isBlank stop (n + 1)
    else if afterBlank then (q, n)
    else if v.endsQuote n then ({ q with limit := n }, n)
    else quoteView v fuel (q.mapLine n fun l => { l with indent := -1 }) afterBlank stop (n + 1)

def quote? (nested : Nested) (v : View) (n stop : Nat) : Option Piece :=
  if v.quoteAt n then
    let (q, last) := v.quoteView (stop - n) v false stop n
    let inner := nested { q with indent := 0, room := v.room - 1 } n last
    some (inner.wrap "blockquote" "blockquote" n)
  else none

/-! ## Lists -/

/-- The view of a list item, and whether nothing stands on its first line. The mark counts as
indentation. The content is indented up to where it starts on the first line, or by one more
column than the mark if that is more than four columns away or the line is empty. -/
def itemView (v : View) (n : Nat) (m : ListMark) : View × Bool :=
  let l := v.line n
  let start := l.indent.toNat + m.width
  let after := l.content.drop m.width
  let spaces := (after.takeWhile isIndent).length
  let offset := indentWidth l.column start after
  let isEmpty := after.all isIndent
  let gap := if isEmpty || offset - start > 4 then 1 else offset - start
  let q := v.mapLine n fun l => { l with shift := l.shift + m.width + spaces, indent := offset }
  ({ q with indent := (start + gap : Nat), listIndent := v.indent, room := v.room - 2 }, isEmpty)

/-- A list item. An empty one is over after a blank line. -/
def listItem (nested : Nested) (v : View) (n stop : Nat) (m : ListMark) : Piece :=
  let (q, isEmpty) := v.itemView n m
  let p := if isEmpty && q.isBlank (n + 1) then .nothing (min (n + 2) stop) else nested q n stop
  p.wrap "list_item" "li" n

/-- The mark of the next item of a list. -/
def nextMark? (v : View) (m : ListMark) (n stop : Nat) : Option ListMark :=
  if stop ≤ n || (v.line n).indent < v.indent || v.isCode n || v.endsList n then none
  else
    let next? := if m.number.isSome then orderedMark? (v.content n) else listMark? (v.content n)
    next?.filter fun next => next.mark = m.mark && next.number.isSome = m.number.isSome

/-- The items of a list from a line on. -/
def listItems (nested : Nested) (v : View) (stop : Nat) : Nat → Nat → ListMark → Piece
  | 0, n, _ => .nothing n
  | fuel + 1, n, m =>
    let p := v.listItem nested n stop m
    match v.nextMark? m p.next stop with
    | none => p
    | some m => p.append (listItems nested v stop fuel p.next m)

def list? (nested : Nested) (v : View) (n stop : Nat) : Option Piece :=
  (v.listMarkAt? n).map fun m =>
    let p := v.listItems nested stop (stop - n) n m
    if m.number.isSome then p.wrap "ordered_list" "ol" n else p.wrap "bullet_list" "ul" n

/-! ## All blocks -/

/-- The block that starts on a line. -/
def block (nested : Nested) (v : View) (n stop : Nat) : Piece :=
  (v.table? n stop
    <|> v.codeBlock? n stop
    <|> v.fencedCode? n stop
    <|> v.quote? nested n stop
    <|> v.thematicBreak? n
    <|> v.list? nested n stop
    <|> v.definitionPiece? n
    <|> v.htmlBlock? n stop
    <|> v.heading? n
    <|> v.underlinedHeading? n stop).getD (v.paragraph n)

/-- The blocks from a line on, one after the other. One blank line after a block is passed
with it. -/
def blocksFrom (nested : Nested) (v : View) (stop : Nat) : Nat → Nat → Piece
  | 0, n => .nothing n
  | fuel + 1, n =>
    let n := if n < stop then v.skipBlank n else n
    if stop ≤ n || (v.line n).indent < v.indent then .nothing n
    else
      let p := v.block nested n stop
      let next := if p.next < stop && v.isBlank p.next then p.next + 1 else p.next
      p.append (blocksFrom nested v stop fuel next)

/-- The blocks of a view from a line up to another. The first argument bounds the levels of
nesting; `room` is what counts. -/
def blocks : Nat → Nested
  | 0, v, n, stop => skipped v n stop
  | fuel + 1, v, n, stop =>
    if v.room = 0 then skipped v n stop else v.blocksFrom (blocks fuel) stop (stop - n + 1) n
where
  /-- Content that is nested too deep. -/
  skipped (v : View) (n stop : Nat) : Piece :=
    let first := v.skipBlank n
    if stop ≤ first || (v.line first).indent < v.indent then .nothing first else .nothing stop

end View

/-- The blocks of a document, the texts inside of them still to be read. -/
def blocksOf (text : String) : Piece :=
  let v := View.ofText text
  v.blocks v.room 0 v.limit

end Headline.Markdown
