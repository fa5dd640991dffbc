/-!
# Lines

Two notions of a line meet in this library. A Markdown document counts lines by line
feed, carriage return and the pair of both. The source text that is shown for a block
is cut at every character that Unicode regards as a line boundary.
-/

namespace Headline.Text

/-! ## Markdown's lines -/

/-- Every carriage return, alone or before a line feed, as one line feed. -/
def normalizeBreaks : List Char → List Char
  | [] => []
  | '\r' :: '\n' :: cs => '\n' :: normalizeBreaks cs
  | '\r' :: cs => '\n' :: normalizeBreaks cs
  | c :: cs => c :: normalizeBreaks cs

/-- The lines of a text as Markdown counts them, without their ends. A text that ends
with a break has no further, empty line. -/
def markdownLines (cs : List Char) : List (List Char) := go [] (normalizeBreaks cs)
where
  /-- `line` holds the characters of the open line, last first. -/
  go (line : List Char) : List Char → List (List Char)
    | [] => if line.isEmpty then [] else [line.reverse]
    | '\n' :: cs => line.reverse :: go [] cs
    | c :: cs => go (c :: line) cs

/-! ## Lines at every line boundary -/

/-- The characters that end a line; a carriage return and a line feed after it end it
together. -/
def isLineBoundary (c : Char) : Bool :=
  let n := c.toNat
  (0x0A ≤ n && n ≤ 0x0D) || (0x1C ≤ n && n ≤ 0x1E) || n == 0x85 || n == 0x2028 || n == 0x2029

/-- The lines of a text cut at all line boundaries, without their ends. A text that
ends with a boundary has no further, empty line. -/
def splitLines (cs : List Char) : List (List Char) := go [] cs
where
  /-- `line` holds the characters of the open line, last first. -/
  go (line : List Char) : List Char → List (List Char)
    | [] => if line.isEmpty then [] else [line.reverse]
    | '\r' :: '\n' :: cs => line.reverse :: go [] cs
    | c :: cs => if isLineBoundary c then line.reverse :: go [] cs else go (c :: line) cs

end Headline.Text
