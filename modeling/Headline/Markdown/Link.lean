import Headline.Markdown.Entity
import Headline.Text.Blank
import Headline.Text.Casing

/-!
# The parts of links

A link has a destination, possibly in angle brackets, and possibly a title between quotes or
parentheses. A reference names the link by a label, which is compared without regard to
letter case and to the extent of white space.
-/

namespace Headline.Markdown

open Text

/-! ## Destinations -/

/-- The rest of a destination in angle brackets, and what follows. `acc` holds what has been
passed, last first. -/
def angleDestination? (acc : List Char) : List Char → Option (List Char × List Char)
  | [] => none
  | '\\' :: c :: cs => angleDestination? (c :: '\\' :: acc) cs
  | c :: cs =>
    if c = '\n' || c = '<' then none
    else if c = '>' then some (acc.reverse, cs)
    else angleDestination? (c :: acc) cs

/-- Whether a character ends a bare destination: a space or a control character. -/
def endsDestination (c : Char) : Bool := c.toNat ≤ 0x20 || c.toNat == 0x7F

/-- A bare destination, in which parentheses are balanced and at most 32 deep. -/
def bareDestination? (depth : Nat) (acc : List Char) : List Char → Option (List Char × List Char)
  | '\\' :: c :: cs =>
    if c = ' ' then finish ('\\' :: c :: cs) else bareDestination? depth (c :: '\\' :: acc) cs
  | c :: cs =>
    if endsDestination c then finish (c :: cs)
    else if c = '(' then
      if depth ≥ 32 then none else bareDestination? (depth + 1) (c :: acc) cs
    else if c = ')' then
      if depth = 0 then finish (c :: cs) else bareDestination? (depth - 1) (c :: acc) cs
    else bareDestination? depth (c :: acc) cs
  | [] => finish []
where
  /-- End here. -/
  finish (rest : List Char) : Option (List Char × List Char) :=
    if acc.isEmpty || depth ≠ 0 then none else some (acc.reverse, rest)

/-- The destination at the front of a text, with escapes and references resolved, and what
follows. -/
def destination? (cs : List Char) : Option (List Char × List Char) :=
  (match cs with
    | '<' :: rest => angleDestination? [] rest
    | _ => bareDestination? 0 [] cs).map fun (d, rest) => (unescape d, rest)

def startsWith (s : String) (cs : List Char) : Bool := s.toList.isPrefixOf cs

/-- Whether a destination is harmless: it starts no script and reads no local file. Images
may be given as data. -/
def isSafe (destination : List Char) : Bool :=
  let d := (trimBlank destination).map Char.toLower
  if ["vbscript:", "javascript:", "file:", "data:"].any fun s => startsWith s d then
    ["gif", "png", "jpeg", "webp"].any fun s => startsWith ("data:image/" ++ s ++ ";") d
  else true

/-! ## Titles -/

/-- How the search for the end of a title comes out. -/
inductive TitleScan where
  /-- the end is found; `isEmpty` says that nothing stands before it -/
  | closed (isEmpty : Bool) (rest : List Char)
  /-- no title can stand here -/
  | refused
  /-- the text ends inside the title -/
  | unfinished (isEmpty : Bool)
deriving Repr, DecidableEq

/-- Look for the end of a title. `isEmpty` says that nothing has been passed yet. -/
def scanTitle (close : Char) (isEmpty : Bool) : List Char → TitleScan
  | [] => .unfinished isEmpty
  | '\\' :: _ :: cs => scanTitle close false cs
  | c :: cs =>
    if c = close then .closed isEmpty cs
    else if c = '(' && close = ')' then .refused
    else scanTitle close false cs

/-- The character that ends a title that starts with the given one. -/
def titleClose? (c : Char) : Option Char :=
  if c = '"' || c = '\'' then some c else if c = '(' then some ')' else none

/-- What follows the title at the front of a text. -/
def afterTitle? (cs : List Char) : Option (List Char) :=
  match cs with
  | [] => none
  | c :: rest =>
    match titleClose? c with
    | none => none
    | some close =>
      match scanTitle close true rest with
      | .closed _ rest => some rest
      | _ => none

/-! ## Labels -/

/-- Every run of white space as one space. -/
def collapseBlank : List Char → List Char
  | [] => []
  | c :: cs =>
    if isBlank c then
      match collapseBlank cs with
      | ' ' :: rest => ' ' :: rest
      | rest => ' ' :: rest
    else c :: collapseBlank cs

/-- A label in the form in which labels are compared. -/
def normalizeLabel (cs : List Char) : List Char :=
  upperChars (lowerChars (collapseBlank (trimBlank cs)))

/-- The labels that a document defines, as they are compared. -/
abbrev Labels := List (List Char)

end Headline.Markdown
