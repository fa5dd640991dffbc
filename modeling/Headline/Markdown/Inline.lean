import Headline.Document.Token
import Headline.Markdown.Address
import Headline.Markdown.Emphasis
import Headline.Markdown.Html
import Headline.Markdown.Line
import Headline.Markdown.Link

/-!
# Text inside of blocks

The text of a block is read from left to right. What binds tighter comes first: escapes, code,
addresses, HTML and character references stand for themselves wherever they occur, brackets
make links and images, and marks of emphasis are paired last, inside each link and outside.

To find the end of a label everything inside is passed over, links included, and that again
looks for the ends of labels. How far this goes is limited, and what is found at a place is
remembered for all later visits.
-/

namespace Headline.Markdown

open Text

/-! ## The text and what may be known about it -/

/-- A text with the place before which reading stops. -/
structure Span where
  chars : Array Char
  stop : Nat
  labels : Labels

namespace Span

/-- The character at a place, if it is before the end. -/
def at? (s : Span) (i : Nat) : Option Char := if i < s.stop then s.chars[i]? else none

/-- The characters from one place up to another. -/
def slice (s : Span) (first last : Nat) : List Char := (s.chars.extract first last).toList

/-- The place after white space that may separate the parts of a link. -/
def skipSpace (s : Span) : Nat → Nat → Nat
  | 0, i => i
  | fuel + 1, i =>
    match s.at? i with
    | some c => if isIndent c || c == '\n' then skipSpace s fuel (i + 1) else i
    | none => i

/-- The place after spaces and tabs. -/
def skipIndent (s : Span) : Nat → Nat → Nat
  | 0, i => i
  | fuel + 1, i =>
    match s.at? i with
    | some c => if isIndent c then skipIndent s fuel (i + 1) else i
    | none => i

/-- The place after a run of a character. -/
def skipRun (s : Span) (c : Char) : Nat → Nat → Nat
  | 0, i => i
  | fuel + 1, i => if s.at? i == some c then skipRun s c fuel (i + 1) else i

end Span

/-! ## What stands for itself -/

/-- What is written for a part of the text. -/
inductive Output where
  | chars (cs : List Char)
  | tokens (ts : List Token)
  | lineEnd
deriving Repr

/-- A character that was written in a special way. -/
def specialText (content : String) : Token := { Token.text content with name := "text_special" }

/-- A backslash and what it does to the next character. -/
def escapeAt? (s : Span) (i : Nat) : Option (Nat × Output) :=
  (s.at? (i + 1)).map fun c =>
    if c = '\n' then (s.skipIndent s.stop (i + 2), .tokens [Token.plain "hardbreak" 0])
    else
      (i + 2, .tokens [specialText (String.ofList (if isEscapable c then [c] else ['\\', c]))])

/-- The content of code: line feeds are spaces, and one space goes at either end, unless
there is nothing but white space. -/
def codeContent (cs : List Char) : List Char :=
  let cs := cs.map fun c => if c = '\n' then ' ' else c
  if cs.head? = some ' ' && cs.getLast? = some ' ' && !(trimBlank cs).isEmpty then
    (cs.drop 1).dropLast
  else cs

/-- The run of backticks of the given length that starts at `i` or later. -/
def closingRun? (chars : Array Char) (length : Nat) : Nat → Nat → Option Nat
  | 0, _ => none
  | fuel + 1, i =>
    if chars.size ≤ i then none
    else if chars[i]? == some (Char.ofNat 96) then
      let whole : Span := ⟨chars, chars.size, []⟩
      let next := whole.skipRun (Char.ofNat 96) chars.size i
      if next - i = length then some i else closingRun? chars length fuel next
    else closingRun? chars length fuel (i + 1)

/-- A run of backticks: code if another run of the same length follows, and otherwise the
backticks themselves. -/
def codeAt (s : Span) (i : Nat) : Nat × Output :=
  let next := s.skipRun (Char.ofNat 96) s.stop i
  let mark := s.slice i next
  match closingRun? s.chars (next - i) (s.chars.size + 1) next with
  | some last =>
    let content := codeContent (s.slice next last)
    (last + (next - i), .tokens
      [⟨"code_inline", 0, "code", none, String.ofList content, String.ofList mark, []⟩])
  | none => (next, .chars mark)

/-- Whether a text between angle brackets is an address with a scheme. -/
def isSchemeAddress (cs : List Char) : Bool :=
  let scheme := cs.takeWhile Address.isSchemeChar
  (scheme.head?.map Char.isAlpha).getD false && 2 ≤ scheme.length && scheme.length ≤ 32 &&
    match cs.drop scheme.length with
    | ':' :: rest =>
      let rest := if rest.getLast? = some '\n' then rest.dropLast else rest
      rest.all fun c => 0x20 < c.toNat && c != '<' && c != '>'
    | _ => false

/-- Whether a label of a mail host is well-formed. -/
def isMailLabel (cs : List Char) : Bool :=
  !cs.isEmpty && cs.length ≤ 63 && cs.all (fun c => c.isAlphanum || c == '-') &&
    cs.head? != some '-' && cs.getLast? != some '-'

/-- Whether a character may stand in the name of a mailbox. -/
def isMailChar (c : Char) : Bool :=
  c.isAlphanum || ".!#$%&'*+/=?^_`|~-".toList.contains c || c.toNat == 0x7B || c.toNat == 0x7D

/-- Whether a text between angle brackets is a mail address. -/
def isMailAddress (cs : List Char) : Bool :=
  let cs := if cs.getLast? = some '\n' then cs.dropLast else cs
  let name := cs.takeWhile isMailChar
  match cs.drop name.length with
  | '@' :: host => !name.isEmpty && (Address.splitBy (· == '.') host).all isMailLabel
  | _ => false

/-- The place of the next closing angle bracket, if no opening one comes before it. -/
def closingAngle? (s : Span) : Nat → Nat → Option Nat
  | 0, _ => none
  | fuel + 1, i =>
    match s.at? i with
    | some c => if c = '<' then none else if c = '>' then some i else closingAngle? s fuel (i + 1)
    | none => none

def addressAt? (s : Span) (i : Nat) : Option (Nat × Output) :=
  (closingAngle? s s.stop (i + 1)).bind fun last =>
    let cs := s.slice (i + 1) last
    if (isSchemeAddress cs && isSafe cs) || isMailAddress cs then
      some (last + 1, .tokens
        [Token.plain "link_open" 1, Token.text (String.ofList (Address.readable cs)),
         Token.plain "link_close" (-1)])
    else none

def htmlAt? (s : Span) (i : Nat) : Option (Nat × Output) :=
  if i + 2 < s.stop then
    (Html.inline.prefixLength? (s.slice i s.chars.size)).map fun n =>
      let content := String.ofList (s.slice i (i + n))
      (i + n, .tokens [{ Token.text content with name := "html_inline" }])
  else none

def referenceAt? (s : Span) (i : Nat) : Option (Nat × Output) :=
  if i + 1 < s.stop then
    (entityAt? (s.slice (i + 1) (min (i + 40) s.chars.size))).map fun (content, n) =>
      (i + 1 + n, .tokens [specialText content])
  else none

/-- What stands for itself at a place, and the place after it. -/
def plainAt? (s : Span) (i : Nat) : Option (Nat × Output) :=
  match s.at? i with
  | none => none
  | some c =>
    if c = '\n' then some (s.skipIndent s.stop (i + 1), .lineEnd)
    else if c = '\\' then escapeAt? s i
    else if c.toNat = 96 then some (codeAt s i)
    else if c = '<' then addressAt? s i <|> htmlAt? s i
    else if c = '&' then referenceAt? s i
    else none

/-! ## Links and images -/

/-- What is known about places: where what starts there ends. -/
abbrev Known := Array (Option Nat)

/-- A reading that remembers what it finds. -/
abbrev Scan := StateM Known

/-- The place after what starts at a place. -/
abbrev Skip := Nat → Scan Nat

/-- The closing bracket of the label whose opening bracket stands before `i`. `depth` counts
the brackets open inside. With `noLinks`, a link inside of the label is refused. -/
def labelEnd? (s : Span) (skip : Skip) (noLinks : Bool) : Nat → Nat → Nat → Scan (Option Nat)
  | 0, _, _ => return none
  | fuel + 1, depth, i =>
    match s.at? i with
    | none => return none
    | some c =>
      if c = ']' && depth = 0 then return some i
      else do
        let depth := if c = ']' then depth - 1 else depth
        let next ← skip i
        if c = '[' then
          if next = i + 1 then labelEnd? s skip noLinks fuel (depth + 1) next
          else if noLinks then return none
          else labelEnd? s skip noLinks fuel depth next
        else labelEnd? s skip noLinks fuel depth next

/-- The end of a label whose opening bracket stands at `i`. -/
def bracketEnd? (s : Span) (skip : Skip) (noLinks : Bool) (i : Nat) : Scan (Option Nat) :=
  labelEnd? s skip noLinks (s.stop + 1) 0 (i + 1)

/-- A link or an image: the places of its label, and the place after it. -/
structure Target where
  first : Nat
  last : Nat
  next : Nat

/-- The place after a destination and a title that start at `i`, and after white space. The
title is looked for even without a destination if `alwaysTitle`. -/
def destinationEnd (s : Span) (alwaysTitle : Bool) (i : Nat) : Nat :=
  let found := destination? (s.slice i s.stop)
  let start := match found with
    | some (d, rest) => if isSafe d then s.stop - rest.length else i
    | none => i
  if found.isNone && !alwaysTitle then i
  else
    let next := s.skipSpace s.stop start
    match if next < s.stop && next ≠ start then afterTitle? (s.slice next s.stop) else none with
    | some rest => s.skipSpace s.stop (s.stop - rest.length)
    | none => next

/-- The place after a reference to a label that was defined. `i` is the place where a second
label may start, `last` the end of the first one. -/
def referenceEnd? (s : Span) (skip : Skip) (first last i : Nat) : Scan (Option Nat) := do
  let second ← if s.at? i = some '[' then bracketEnd? s skip false i else pure none
  let (label, next) := match second with
    | some e => (s.slice (i + 1) e, e + 1)
    | none => ([], last + 1)
  let label := if label.isEmpty then s.slice first last else label
  return if s.labels.contains (normalizeLabel label) then some next else none

/-- The link whose opening bracket stands at `i`. -/
def linkAt? (s : Span) (skip : Skip) (i : Nat) : Scan (Option Target) := do
  match ← bracketEnd? s skip true i with
  | none => return none
  | some last =>
    let target := fun next => (⟨i + 1, last, next⟩ : Target)
    if s.at? (last + 1) = some '(' then
      let start := s.skipSpace s.stop (last + 2)
      if s.stop ≤ start then return none
      let next := destinationEnd s false start
      if s.at? next = some ')' then return some (target (next + 1))
      return (← referenceEnd? s skip (i + 1) last (next + 1)).map target
    else return (← referenceEnd? s skip (i + 1) last (last + 1)).map target

/-- The image whose exclamation mark stands at `i`. -/
def imageAt? (s : Span) (skip : Skip) (i : Nat) : Scan (Option Target) := do
  if s.at? (i + 1) ≠ some '[' then return none
  match ← bracketEnd? s skip false (i + 1) with
  | none => return none
  | some last =>
    let target := fun next => (⟨i + 2, last, next⟩ : Target)
    if s.at? (last + 1) = some '(' then
      let start := s.skipSpace s.stop (last + 2)
      if s.stop ≤ start then return none
      let next := destinationEnd s true start
      return if s.at? next = some ')' then some (target (next + 1)) else none
    else return (← referenceEnd? s skip (i + 2) last (last + 1)).map target

/-- The place after what starts at a place. `room` bounds the labels that are looked through
inside of each other; without room, all that is left of the text is passed over. -/
def skipAt (s : Span) : Nat → Skip
  | 0, i => remember s i fun _ => return s.stop + 1
  | room + 1, i => remember s i fun c =>
    match plainAt? s i with
    | some (next, _) => return next
    | none =>
      if c = '[' then return ((← linkAt? s (skipAt s room) i).map (·.next)).getD (i + 1)
      else if c = '!' then return ((← imageAt? s (skipAt s room) i).map (·.next)).getD (i + 1)
      else return i + 1
where
  /-- The place that is known, or else the one that is found. -/
  remember (s : Span) (i : Nat) (find : Char → Scan Nat) : Scan Nat := do
    match ((← get)[i]?).join with
    | some next => return next
    | none =>
      let next ← find ((s.at? i).getD ' ')
      modify (·.setIfInBounds i (some next))
      return next

/-! ## Writing tokens -/

/-- The tokens written so far. -/
structure Writer where
  tokens : Array Token
  /-- characters that are not yet in a token, last first -/
  pending : List Char
  marks : Array Delimiter
  known : Known

namespace Writer

/-- A writer for a text of some length. -/
def start (length : Nat) : Writer := ⟨#[], [], #[], Array.replicate length none⟩

/-- Put the pending characters into a token. -/
def flush (w : Writer) : Writer :=
  if w.pending.isEmpty then w
  else { w with
    tokens := w.tokens.push (Token.text (String.ofList w.pending.reverse)), pending := [] }

def push (w : Writer) (t : Token) : Writer :=
  let w := w.flush
  { w with tokens := w.tokens.push t }

/-- End a line. Two spaces or more before the end make the break a hard one; the spaces
go. -/
def endLine (w : Writer) : Writer :=
  match w.pending with
  | ' ' :: ' ' :: rest =>
    { w with pending := rest.dropWhile (· == ' ') }.push (Token.plain "hardbreak" 0)
  | ' ' :: rest => { w with pending := rest }.push (Token.plain "softbreak" 0)
  | _ => w.push (Token.plain "softbreak" 0)

def put (w : Writer) : Output → Writer
  | .chars cs => { w with pending := cs.reverse ++ w.pending }
  | .tokens ts => ts.foldl push w
  | .lineEnd => w.endLine

/-- Write marks of emphasis, each as a text of its own. -/
def putMarks (w : Writer) (mark : Char) (text : String) (length : Nat) (opens closes : Bool) :
    Nat → Writer
  | 0 => w
  | count + 1 =>
    let w := w.push (Token.text text)
    let d : Delimiter := ⟨mark, length, w.tokens.size - 1, opens, closes, none⟩
    putMarks { w with marks := w.marks.push d } mark text length opens closes count

/-- Run a reading with what the writer knows. -/
def scan {α : Type} (w : Writer) (x : Scan α) : α × Writer :=
  let (a, known) := x.run w.known
  (a, { w with known := known })

/-- Put a paired mark in place of the text that it was written as. -/
def emphasize (mark : Char) (kind : String) (nesting : Int) (t : Token) : Token :=
  let (name, tag) := if mark == '~' then ("s", "s") else ("em", "em")
  { t with
    name := name ++ "_" ++ kind
    tag := tag
    nesting := nesting
    markup := t.content
    content := "" }

/-- Pair the marks. What is paired is no text any more. -/
def pairMarks (w : Writer) : Writer :=
  let marks := Delimiter.pair w.marks
  let tokens := marks.foldl (fun ts d =>
    match d.partner.bind (marks[·]?) with
    | some c =>
      (ts.modify d.slot (emphasize d.mark "open" 1)).modify c.slot (emphasize d.mark "close" (-1))
    | none => ts) w.tokens
  { w with tokens := tokens, marks := #[] }

end Writer

/-- A run of marks at a place: the place after it and the writer with the marks. -/
def marksAt? (s : Span) (c : Char) (i : Nat) (w : Writer) : Option (Nat × Writer) :=
  let next := s.skipRun c s.stop i
  let before := if i = 0 then ' ' else s.chars[i - 1]?.getD ' '
  let (opens, closes) := flanks (c != '_') before ((s.at? next).getD ' ')
  let length := next - i
  if c = '~' then
    if length < 2 then none
    else
      let w := if length % 2 = 1 then w.push (Token.text "~") else w
      some (next, w.putMarks c "~~" 0 opens closes (length / 2))
  else some (next, w.putMarks c (String.ofList [c]) length opens closes length)

/-! ## Reading -/

/-- How many levels of labels inside of labels are looked through. -/
def labelRoom : Nat := 20

/-- Read a text from a place on. `room` is how many levels of labels are left, and the first
argument bounds the steps. -/
def readFrom : Nat → Nat → Span → Nat → Writer → Writer
  | 0, _, _, _, w => w.flush
  | fuel + 1, room, s, i, w =>
    match s.at? i with
    | none => w.flush
    | some c =>
      match plainAt? s i with
      | some (next, out) => readFrom fuel room s next (w.put out)
      | none =>
        let literally := fun (w : Writer) =>
          readFrom fuel room s (i + 1) { w with pending := c :: w.pending }
        if c = '*' || c = '_' || c = '~' then
          match marksAt? s c i w with
          | some (next, w) => readFrom fuel room s next w
          | none => literally w
        else if c = '[' then
          match w.scan (linkAt? s (skipAt s room) i) with
          | (some t, w) =>
            let w := w.push (Token.plain "link_open" 1)
            let inner :=
              readFrom fuel (room - 1) { s with stop := t.last } t.first { w with marks := #[] }
            let inner := inner.pairMarks.push (Token.plain "link_close" (-1))
            readFrom fuel room s t.next { inner with marks := w.marks }
          | (none, w) => literally w
        else if c = '!' then
          match w.scan (imageAt? s (skipAt s room) i) with
          | (some t, w) =>
            let label := s.slice t.first t.last
            let inner := readFrom fuel labelRoom ⟨label.toArray, label.length, s.labels⟩ 0
              (Writer.start label.length)
            let token : Token :=
              { Token.text (String.ofList label) with
                name := "image", tag := "img", children := inner.pairMarks.tokens.toList }
            readFrom fuel room s t.next (w.push token)
          | (none, w) => literally w
        else literally w

/-- The tokens of the text of a block. -/
def readInline (labels : Labels) (text : String) : List Token :=
  let cs := text.toList
  let s : Span := ⟨cs.toArray, cs.length, labels⟩
  (readFrom (cs.length + 1) labelRoom s 0 (Writer.start cs.length)).pairMarks.tokens.toList

end Headline.Markdown
