import Headline.Markdown.Html
import Headline.Markdown.Marks

/-!
# Where blocks start

Whether a block of some kind starts on a line of a view. This decides also where a paragraph,
a quote or a list ends, since most kinds may start without a blank line before them.
-/

namespace Headline.Markdown.View

def fenceAt (v : View) (n : Nat) : Bool := !v.isCode n && (fence? (v.content n)).isSome

def quoteAt (v : View) (n : Nat) : Bool := !v.isCode n && (v.content n).head? == some '>'

def breakAt (v : View) (n : Nat) : Bool := !v.isCode n && isThematicBreak (v.content n)

def headingAt (v : View) (n : Nat) : Bool := !v.isCode n && (headingMark? (v.content n)).isSome

def htmlStart? (v : View) (n : Nat) : Option Html.BlockStart :=
  if v.isCode n then none else Html.blockStart? (v.content n)

/-- Whether a block of HTML starts that may follow a paragraph directly. -/
def htmlAt (v : View) (n : Nat) : Bool := ((v.htmlStart? n).map (·.interrupts)).getD false

/-- The mark of the list item that starts on a line. A line that is indented by four columns
or more against the list, but less than the content of the item, goes on with a paragraph. -/
def listMarkAt? (v : View) (n : Nat) : Option ListMark :=
  let indent := (v.line n).indent
  if v.isCode n then none
  else if v.listIndent ≥ 0 && indent - v.listIndent ≥ 4 && indent < v.indent then none
  else listMark? (v.content n)

def listAt (v : View) (n : Nat) : Bool := (v.listMarkAt? n).isSome

/-- Whether a list starts that may follow a paragraph directly: one that belongs to a list
further out, or one that begins with text and, if it is ordered, with 1. -/
def listInterruptsAt (v : View) (n : Nat) : Bool :=
  match v.listMarkAt? n with
  | none => false
  | some m =>
    (v.line n).indent < v.indent ||
      (m.number.getD 1 == 1 && !((v.content n).drop m.width).all isIndent)

/-- The cells of the header of the table that starts on a line, if one does: a row of cells,
and below it a row of hyphens for as many columns. `stop` is the line before which both have
to stand. -/
def tableHeader? (v : View) (n stop : Nat) : Option (List (List Char)) :=
  if stop < n + 2 || (v.line (n + 1)).indent < v.indent || v.isCode (n + 1) || v.isCode n then none
  else
    match delimiterCount? (v.content (n + 1)) with
    | none => none
    | some count =>
      let header := v.content n
      let cells := rowCells header
      if header.contains '|' && !cells.isEmpty && cells.length == count then some cells else none

/-- Whether a block ends a quote, or a table, without a blank line. -/
def endsQuote (v : View) (n : Nat) : Bool :=
  v.fenceAt n || v.quoteAt n || v.breakAt n || v.listAt n || v.htmlAt n || v.headingAt n

/-- Whether a block ends a list without a blank line. -/
def endsList (v : View) (n : Nat) : Bool := v.fenceAt n || v.quoteAt n || v.breakAt n

/-- Whether a block ends the definition of a label without a blank line. -/
def endsDefinition (v : View) (n : Nat) : Bool :=
  (v.tableHeader? n v.limit).isSome || v.endsQuote n

/-- Whether a block ends a paragraph without a blank line. `stop` is where the view ends for
a table. -/
def endsParagraph (v : View) (n stop : Nat) : Bool :=
  (v.tableHeader? n stop).isSome || v.fenceAt n || v.quoteAt n || v.breakAt n ||
    v.listInterruptsAt n || v.htmlAt n || v.headingAt n

end Headline.Markdown.View
