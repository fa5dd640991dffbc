import Headline.Markdown.Link
import Headline.Markdown.Starts

/-!
# Definitions of labels

A definition gives a destination to a label, in brackets, with a colon, and possibly a title
at the end. Each part may stand on a line of its own, and label and title may span lines; a
definition goes on to the next line as a paragraph would. If what looks like a title spoils
the definition, and the title is on a later line, the definition ends before it.
-/

namespace Headline.Markdown

open Text

namespace View

/-- The text of a line, with its line feed, if a definition may go on to it. -/
def continuation? (v : View) (n : Nat) : Option (List Char) :=
  if v.limit ≤ n || v.isBlank n then none
  else if v.isCode n || (v.line n).indent < 0 || !v.endsDefinition n then
    some (v.content n ++ (v.line n).ending)
  else none

/-- As many steps as the characters of a view could need. -/
def charCount (v : View) : Nat := v.lines.foldl (fun n l => n + l.chars.length + 1) 1

end View

/-- A place in a definition: what is left of the lines taken so far, and the next line. -/
structure Place where
  rest : List Char
  next : Nat
deriving Repr, DecidableEq

namespace Place

/-- The place after the first character. If that is a line feed, the next line is taken on,
provided that the definition may go on to it. -/
def step (v : View) (p : Place) : Place :=
  match p.rest with
  | [] => p
  | c :: cs =>
    if c = '\n' then
      match v.continuation? p.next with
      | some line => ⟨cs ++ line, p.next + 1⟩
      | none => ⟨cs, p.next⟩
    else ⟨cs, p.next⟩

/-- The characters up to a closing bracket, last first, and the place after it. -/
def label? (v : View) : Nat → List Char → Place → Option (List Char × Place)
  | 0, _, _ => none
  | fuel + 1, acc, p =>
    match p.rest with
    | [] => none
    | c :: cs =>
      if c = '[' then none
      else if c = ']' then some (acc, ⟨cs, p.next⟩)
      else if c = '\\' then
        match cs with
        | [] => none
        | d :: _ => label? v fuel (d :: c :: acc) (step v ⟨cs, p.next⟩)
      else label? v fuel (c :: acc) (p.step v)

/-- The place after spaces, tabs and line feeds. -/
def skipSpace (v : View) : Nat → Place → Place
  | 0, p => p
  | fuel + 1, p =>
    match p.rest with
    | c :: _ => if isIndent c || c = '\n' then skipSpace v fuel (p.step v) else p
    | [] => p

/-- Whether white space comes next. -/
def atSpace (p : Place) : Bool := (p.rest.head?.map fun c => isIndent c || c == '\n').getD false

/-- Look for the end of a title, going on from line to line: whether the title is empty,
whether another line was needed, and the place after the title. -/
def titleEnd? (v : View) (close : Char) : Nat → Bool → Bool → Place → Option (Bool × Bool × Place)
  | 0, _, _, _ => none
  | fuel + 1, isEmpty, goesOn, p =>
    match scanTitle close isEmpty p.rest with
    | .refused => none
    | .closed isEmpty rest => some (isEmpty, goesOn, ⟨rest, p.next⟩)
    | .unfinished isEmpty =>
      match v.continuation? p.next with
      | none => none
      | some line => titleEnd? v close fuel isEmpty true ⟨line, p.next + 1⟩

def title? (v : View) (p : Place) : Option (Bool × Bool × Place) :=
  match p.rest with
  | [] => none
  | c :: cs =>
    (titleClose? c).bind fun close => titleEnd? v close v.charCount true false ⟨cs, p.next⟩

/-- The rest of a line after spaces and tabs. -/
def trimmed (p : Place) : List Char := p.rest.dropWhile isIndent

/-- Whether nothing but spaces and tabs is left on the line. -/
def atLineEnd (p : Place) : Bool := (p.trimmed.head?.map (· == '\n')).getD true

end Place

namespace View

/-- The definition that starts on a line: its label, as it is compared, and the line after
it. -/
def definition? (v : View) (n : Nat) : Option (List Char × Nat) := do
  if v.isCode n then none
  let fuel := v.charCount
  match v.content n ++ (v.line n).ending with
  | '[' :: cs =>
    let (label, p) ← Place.label? v fuel [] ⟨cs, n + 1⟩
    match p.rest with
    | ':' :: cs =>
      let p := Place.skipSpace v fuel ⟨cs, p.next⟩
      let (destination, rest) ← destination? p.rest
      if !isSafe destination then none
      let bare : Place := ⟨rest, p.next⟩
      let titled : Option (Bool × Place) :=
        match Place.title? v (bare.skipSpace v fuel) with
        | some (isEmpty, goesOn, p) => if bare.atSpace || goesOn then some (isEmpty, p) else none
        | none => none
      let stop := match titled with
        | some (isEmpty, p) => if p.atLineEnd || isEmpty then p else bare
        | none => bare
      let label := normalizeLabel label.reverse
      if stop.atLineEnd && !label.isEmpty then some (label, stop.next) else none
    | _ => none
  | _ => none

end View

end Headline.Markdown
