import Headline.Markdown.Line
import Headline.Text.Blank

/-!
# Marks at the start of a line

Most blocks announce themselves on their first line: headings by number signs, breaks and
fences by runs of one character, list items by a bullet or a number, tables by a row of
hyphens. What stands on a line is judged here from its content, the text after the
indentation.
-/

namespace Headline.Markdown

open Text

/-! ## Thematic breaks -/

/-- Whether a line is a thematic break: three or more of one character, with nothing but
spaces and tabs between them. -/
def isThematicBreak : List Char → Bool
  | [] => false
  | c :: cs =>
    (c == '*' || c == '-' || c == '_') && cs.all (fun d => d == c || isIndent d) &&
      2 ≤ cs.count c

/-! ## Headings -/

/-- The depth of a heading, and what follows the number signs. -/
def headingMark? (content : List Char) : Option (Nat × List Char) :=
  let level := (content.takeWhile (· == '#')).length
  let rest := content.drop level
  if 1 ≤ level && level ≤ 6 && (rest.head?.map isIndent).getD true then some (level, rest) else none

/-- The text of a heading, from what follows the number signs. Number signs at the end are
dropped if white space stands before them. -/
def headingBody (rest : List Char) : List Char :=
  let back := rest.reverse.dropWhile isIndent
  let tail := back.dropWhile (· == '#')
  trimBlank (if (tail.head?.map isIndent).getD false then tail.reverse else back.reverse)

/-- The depth of the heading that a line underlines. -/
def underlineLevel? : List Char → Option Nat
  | [] => none
  | c :: cs =>
    if (c == '=' || c == '-') && ((cs.dropWhile (· == c)).all isIndent) then
      some (if c == '=' then 1 else 2)
    else none

/-! ## Fences -/

/-- The fence that starts a block of code. -/
structure Fence where
  mark : Char
  length : Nat
deriving Repr, DecidableEq

/-- The fence at the front of a line. What follows a fence of backticks holds no backtick. -/
def fence? : List Char → Option Fence
  | [] => none
  | c :: cs =>
    let length := ((c :: cs).takeWhile (· == c)).length
    if (c == '~' || c == backtick) && 3 ≤ length &&
        (c == '~' || !((c :: cs).drop length).contains c) then some ⟨c, length⟩
    else none
where
  backtick : Char := Char.ofNat 96

/-- Whether a line closes a fence: a fence that is at least as long, and nothing after it. -/
def Fence.isClosedBy (f : Fence) (content : List Char) : Bool :=
  f.length ≤ (content.takeWhile (· == f.mark)).length &&
    (content.dropWhile (· == f.mark)).all isIndent

/-! ## List items -/

structure ListMark where
  /-- the number of an item of an ordered list -/
  number : Option Nat
  /-- the bullet, or what follows the number -/
  mark : Char
  /-- how many characters the mark has -/
  width : Nat
deriving Repr, DecidableEq

/-- Whether a mark ends here: at a space, a tab or the end of the line. -/
def endsMark (rest : List Char) : Bool := (rest.head?.map isIndent).getD true

/-- The number at the front of a line as the mark of a list item: at most nine digits, and a
point or parenthesis. -/
def orderedMark? (content : List Char) : Option ListMark :=
  let digits := content.takeWhile Char.isDigit
  match content.drop digits.length with
  | c :: rest =>
    if (c == '.' || c == ')') && 1 ≤ digits.length && digits.length ≤ 9 && endsMark rest then
      some ⟨some (digits.foldl (fun n d => n * 10 + (d.toNat - 48)) 0), c, digits.length + 1⟩
    else none
  | [] => none

def listMark? (content : List Char) : Option ListMark :=
  match orderedMark? content with
  | some m => some m
  | none =>
    match content with
    | c :: rest =>
      if (c == '*' || c == '-' || c == '+') && endsMark rest then some ⟨none, c, 1⟩ else none
    | [] => none

/-! ## Tables -/

/-- The cells of a row. A vertical bar with a backslash before it belongs to the cell, and the
backslash is dropped. `cell` holds the characters of the open cell, last first. -/
def splitCells (isEscaped : Bool) (cell : List Char) : List Char → List (List Char)
  | [] => [cell.reverse]
  | c :: cs =>
    if c == '|' then
      if isEscaped then splitCells false ('|' :: cell.drop 1) cs
      else cell.reverse :: splitCells false [] cs
    else splitCells (c == '\\') (c :: cell) cs

/-- The cells of a row, without the empty ones outside of the first and the last bar. -/
def rowCells (content : List Char) : List (List Char) :=
  let cells := splitCells false [] (trimBlank content)
  let cells := if cells.head? == some [] then cells.drop 1 else cells
  if cells.getLast? == some [] then cells.dropLast else cells

/-- Whether a cell of the row below the header is well-formed: hyphens, with a colon on
either side or none. -/
def isDelimiter (cell : List Char) : Bool :=
  let body := if cell.head? == some ':' then cell.drop 1 else cell
  let body := if body.getLast? == some ':' then body.dropLast else body
  !body.isEmpty && body.all (· == '-')

/-- Whether a character may stand in the row below the header. -/
def isDelimiterChar (c : Char) : Bool := c == '|' || c == '-' || c == ':' || isIndent c

/-- The number of columns that the row below the header gives to a table. -/
def delimiterCount? (content : List Char) : Option Nat :=
  match content with
  | a :: b :: rest =>
    if !isIndent a && isDelimiterChar a && isDelimiterChar b && rest.all isDelimiterChar &&
        !(a == '-' && isIndent b) then
      let cells := (splitBars (trimBlank content)).map trimBlank
      let inner := if cells.head? == some [] then cells.drop 1 else cells
      let inner := if inner.getLast? == some [] then inner.dropLast else inner
      if inner.all isDelimiter then some inner.length else none
    else none
  | _ => none
where
  /-- The parts between vertical bars. -/
  splitBars : List Char → List (List Char)
    | [] => [[]]
    | c :: cs =>
      if c == '|' then [] :: splitBars cs
      else match splitBars cs with
        | [] => [[c]]
        | cell :: cells => (c :: cell) :: cells

end Headline.Markdown
