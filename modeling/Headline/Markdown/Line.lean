import Headline.Text.Lines

/-!
# Source lines

The block structure of a Markdown document is found line by line. Indentation is counted in
columns, with tab stops every four. Inside quotes and lists a line loses its front: the marks
of the quotes around it are cut off, and the mark of a list item counts as indentation. What
is left remembers the column at which it starts, because tabs depend on it.
-/

namespace Headline.Markdown

def isIndent (c : Char) : Bool := c == ' ' || c == '\t'

/-- The column after a character that starts at the given column. -/
def nextColumn (column : Nat) (c : Char) : Nat :=
  if c == '\t' then column + (4 - column % 4) else column + 1

/-- A line, as far as the quotes around it leave it. -/
structure Line where
  chars : List Char
  /-- how many of the characters stand before the content -/
  shift : Nat
  /-- the columns of indentation; negative for a line that only goes on with a paragraph -/
  indent : Int
  /-- the column at which the characters start -/
  column : Nat
  /-- whether the document ends right after the line, without a line feed -/
  atEnd : Bool
deriving Repr, DecidableEq

/-- The columns of the indentation at the front of a text that starts at column `column`. -/
def indentWidth (column width : Nat) : List Char → Nat
  | [] => width
  | c :: cs =>
    if isIndent c then indentWidth column (nextColumn (column + width) c - column) cs else width

namespace Line

/-- A line as it stands in the document. -/
def ofChars (atEnd : Bool) (cs : List Char) : Line :=
  ⟨cs, (cs.takeWhile isIndent).length, indentWidth 0 0 cs, 0, atEnd⟩

/-- The line beyond the last. -/
def beyond : Line := ⟨[], 0, 0, 0, true⟩

/-- The line without its indentation. -/
def content (l : Line) : List Char := l.chars.drop l.shift

/-- Whether nothing but indentation stands on the line. -/
def isBlank (l : Line) : Bool := l.chars.length ≤ l.shift

/-- The characters after at most `limit` columns of indentation. `width` columns and `taken`
characters have been passed. Of a tab that reaches over the limit, the part beyond it becomes
spaces. -/
def dropColumns (l : Line) (limit width taken : Nat) : List Char → List Char
  | [] => List.replicate (width - limit) ' '
  | c :: cs =>
    if width < limit then
      if isIndent c then
        dropColumns l limit (nextColumn (width + l.column) c - l.column) (taken + 1) cs
      else if taken < l.shift then dropColumns l limit (width + 1) (taken + 1) cs
      else c :: cs
    else List.replicate (width - limit) ' ' ++ c :: cs

/-- The line with at most `limit` columns of indentation cut off. -/
def outdent (l : Line) (limit : Nat) : List Char := dropColumns l limit 0 0 l.chars

/-- The line feed after a line, if there is one. -/
def ending (l : Line) : List Char := if l.atEnd then [] else ['\n']

end Line

/-- A null character as the replacement character. -/
def replaceNull (c : Char) : Char := if c.toNat = 0 then Char.ofNat 0xFFFD else c

/-- The characters of a document: breaks are line feeds, and null characters are replaced. -/
def documentChars (text : String) : List Char :=
  (Text.normalizeBreaks text.toList).map replaceNull

/-- The lines of a document. Spaces and tabs after the last line feed are no line. -/
def documentLines (text : String) : Array Line :=
  let cs := documentChars text
  let lines := Text.markdownLines cs
  if cs.getLast?.getD '\n' == '\n' then (lines.map (Line.ofChars false)).toArray
  else
    let last := lines.getLast?.getD []
    let whole := (lines.dropLast.map (Line.ofChars false)).toArray
    if last.all isIndent then whole else whole.push (Line.ofChars true last)

/-! ## The part of a document in view -/

/-- The lines in view, with what the blocks around them have settled. -/
structure View where
  lines : Array Line
  /-- where the view ends; paragraphs may run up to here -/
  limit : Nat
  /-- the columns that content of the innermost list item is indented by -/
  indent : Int
  /-- the columns of the list around it, negative outside of lists -/
  listIndent : Int
  /-- how many levels of nesting are still allowed -/
  room : Nat
deriving Repr

namespace View

/-- The whole of a document, with twenty levels of nesting to go. -/
def ofText (text : String) : View :=
  let lines := documentLines text
  ⟨lines, lines.size, 0, -1, 20⟩

/-- A line by its number; past the last there is an empty one. -/
def line (v : View) (n : Nat) : Line := v.lines[n]?.getD .beyond

def isBlank (v : View) (n : Nat) : Bool := (v.line n).isBlank

/-- Whether a line is indented so far that it is code, unless a paragraph runs on. -/
def isCode (v : View) (n : Nat) : Bool := (v.line n).indent - v.indent ≥ 4

def content (v : View) (n : Nat) : List Char := (v.line n).content

def mapLine (v : View) (n : Nat) (f : Line → Line) : View :=
  { v with lines := v.lines.modify n f }

def numbers (first last : Nat) : List Nat := List.range' first (last - first)

/-- The text of lines with at most `limit` columns of indentation cut off, each with its line
feed. -/
def fullText (v : View) (first last limit : Nat) : List Char :=
  (numbers first last).flatMap fun n => (v.line n).outdent limit ++ (v.line n).ending

/-- The same without the last line feed. -/
def text (v : View) (first last limit : Nat) : List Char :=
  ['\n'].intercalate ((numbers first last).map fun n => (v.line n).outdent limit)

/-- The first line from `n` on that is not blank, or the end of the view. -/
def skipBlank (v : View) (n : Nat) : Nat := go v (v.limit - n) n
where
  go (v : View) : Nat → Nat → Nat
    | 0, n => n
    | fuel + 1, n => if v.isBlank n then go v fuel (n + 1) else n

end View

end Headline.Markdown
