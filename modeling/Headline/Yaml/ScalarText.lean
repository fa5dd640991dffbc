import Headline.Yaml.Fault
import Headline.Yaml.Place

/-!
# The text of scalars

A scalar is plain, between single or double quotes, or a block of lines. In each form lines
are folded by rules of their own: a single line break becomes a space, and of several the first
is dropped.
-/

namespace Headline.Yaml

namespace Place

/-! ## Quoted scalars -/

/-- The characters that the letters of double-quoted escapes stand for. -/
def escapeLetters : List (Char × Nat) :=
  [('0', 0), ('a', 7), ('b', 8), ('t', 9), ('\t', 9), ('n', 10), ('v', 11), ('f', 12), ('r', 13),
   ('e', 27), (' ', 32), ('"', 34), ('\\', 92), ('/', 47), ('N', 0x85), ('_', 0xA0),
   ('L', 0x2028), ('P', 0x2029)]

/-- How many hexadecimal digits follow a letter in an escape. -/
def escapeWidth? (c : Char) : Option Nat :=
  if c == 'x' then some 2 else if c == 'u' then some 4 else if c == 'U' then some 8 else none

def hexDigit? (c : Char) : Option Nat :=
  if c.isDigit then some (c.toNat - 0x30)
  else if 'a' ≤ c && c ≤ 'f' then some (c.toNat - 0x57)
  else if 'A' ≤ c && c ≤ 'F' then some (c.toNat - 0x37)
  else none

def hexValue? (cs : List Char) : Option Nat :=
  cs.foldl (fun n? c => n?.bind fun n => (hexDigit? c).map (n * 16 + ·)) (some 0)

/-- The breaks and the white space between two lines of a quoted scalar: the breaks, and the
place of the next text. -/
def quotedBreaks (p : Place) : Nat → Except Fault (List Char × Place)
  | 0 => .ok ([], p)
  | fuel + 1 =>
    if p.atDocumentMark then .error .malformed
    else
      let p := p.skipWhile fun c => c == ' ' || c == '\t'
      if p.atBreak then do
        let (b, p) := p.takeBreak
        let (bs, p) ← quotedBreaks p fuel
        return (b ++ bs, p)
      else .ok ([], p)

/-- White space in a quoted scalar, folded if it holds line breaks. -/
def quotedSpaces (p : Place) : Except Fault (List Char × Place) := do
  let (spaces, p) := p.takeWhile fun c => c == ' ' || c == '\t'
  if p.rest.isEmpty then throw .malformed
  if p.atBreak then
    let (b, p) := p.takeBreak
    let (bs, p) ← quotedBreaks p p.rest.length
    return ((if b != ['\n'] then b else if bs.isEmpty then [' '] else []) ++ bs, p)
  else return (spaces, p)

/-- An escape whose backslash is already taken. -/
def escapeAt (p : Place) : Except Fault (List Char × Place) :=
  match p.rest with
  | [] => .error .malformed
  | c :: _ =>
    match escapeLetters.lookup c with
    | some n => .ok ([Char.ofNat n], p.next)
    | none =>
      match escapeWidth? c with
      | some width =>
        let p := p.next
        let digits := p.rest.take width
        match if digits.length = width then hexValue? digits else none with
        | none => .error .malformed
        | some n =>
          if n < 0x110000 then .ok ([Char.ofNat n], p.skip width) else .error (.pointTooLarge n)
      | none =>
        if isBreak c then
          let p := p.takeBreak.2
          quotedBreaks p p.rest.length
        else .error .malformed

/-- The text up to the closing quote, and the place after that. -/
def quotedRest (isDouble : Bool) (p : Place) : Nat → Except Fault (List Char × Place)
  | 0 => .error .malformed
  | fuel + 1 =>
    match p.rest with
    | [] => .error .malformed
    | c :: _ => do
      if c == ' ' || c == '\t' || isBreak c then
        let (cs, p) ← quotedSpaces p
        let (rest, p) ← quotedRest isDouble p fuel
        return (cs ++ rest, p)
      else if isDouble && c == '\\' then
        let (cs, p) ← escapeAt p.next
        let (rest, p) ← quotedRest isDouble p fuel
        return (cs ++ rest, p)
      else if !isDouble && c == '\'' && p.peek 1 == some '\'' then
        let (rest, p) ← quotedRest isDouble (p.skip 2) fuel
        return (c :: rest, p)
      else if c == (if isDouble then '"' else '\'') then return ([], p.next)
      else
        let (rest, p) ← quotedRest isDouble p.next fuel
        return (c :: rest, p)

/-- The scalar whose opening quote stands here. -/
def quotedScalar (isDouble : Bool) (p : Place) : Except Fault (List Char × Place) :=
  quotedRest isDouble p.next p.rest.length

/-! ## Plain scalars -/

/-- Whether a plain scalar is interrupted here. -/
def endsPlain (inFlow : Bool) (c : Char) (next : Option Char) : Bool :=
  isSeparator (some c) ||
    (c == ':' && (isSeparator next || (inFlow && ((next.map isFlowMark).getD false)))) ||
    (inFlow && (isFlowMark c || c == '?'))
where
  /-- Whether a character separates the parts of a flow collection. -/
  isFlowMark (c : Char) : Bool :=
    c == ',' || c == '[' || c == ']' || c.toNat == 0x7B || c.toNat == 0x7D

/-- How many of the characters ahead belong to a plain scalar. -/
def plainLength (inFlow : Bool) : List Char → Nat
  | [] => 0
  | c :: cs => if endsPlain inFlow c cs.head? then 0 else plainLength inFlow cs + 1

/-- The line breaks and spaces before the next line of a plain scalar; `none` at a mark between
documents. -/
def plainBreaks (p : Place) : Nat → Option (List Char) × Place
  | 0 => (some [], p)
  | fuel + 1 =>
    match p.rest with
    | c :: _ =>
      if c == ' ' then plainBreaks p.next fuel
      else if isBreak c then
        let (b, p) := p.takeBreak
        if p.atDocumentMark then (none, p)
        else
          let (bs, p) := plainBreaks p fuel
          (bs.map (b ++ ·), p)
      else (some [], p)
    | [] => (some [], p)

/-- White space after a piece of a plain scalar: what it stands for, which is nothing where the
scalar cannot go on, whether a line ended, and the place after it. -/
def plainSpaces (p : Place) : List Char × Bool × Place :=
  let (spaces, p) := p.takeWhile (· == ' ')
  if p.atBreak then
    let (b, p) := p.takeBreak
    if p.atDocumentMark then ([], true, p)
    else
      let (bs, p) := plainBreaks p p.rest.length
      match bs with
      | none => ([], true, p)
      | some bs => ((if b != ['\n'] then b else if bs.isEmpty then [' '] else []) ++ bs, true, p)
  else (spaces, false, p)

/-- A plain scalar from here on, with `spaces` pending before it. Its lines stand at column
`indent` or further right. Besides the text and the place after it, the answer says whether a
line ended after the last piece. -/
def plainFrom (inFlow : Bool) (indent : Nat) (spaces : List Char) (ended : Bool) (p : Place) :
    Nat → List Char × Bool × Place
  | 0 => ([], ended, p)
  | fuel + 1 =>
    let n := if p.peek 0 == some '#' then 0 else plainLength inFlow p.rest
    if n = 0 then ([], ended, p)
    else
      let piece := spaces ++ p.rest.take n
      let (spaces, ended, p) := plainSpaces (p.skip n)
      if spaces.isEmpty || p.peek 0 == some '#' || (!inFlow && p.column < indent) then
        (piece, ended, p)
      else
        let (rest, ended, p) := plainFrom inFlow indent spaces ended p fuel
        (piece ++ rest, ended, p)

/-- The plain scalar that starts here. -/
def plainScalar (inFlow : Bool) (indent : Nat) (p : Place) : List Char × Bool × Place :=
  plainFrom inFlow indent [] false p p.rest.length

/-! ## Block scalars -/

/-- What becomes of the line breaks at the end of a block scalar. -/
inductive Chomping where
  /-- all are dropped -/
  | strip
  /-- one is kept -/
  | clip
  /-- all are kept -/
  | keep
deriving Repr, DecidableEq

/-- The chomping that a sign stands for. -/
def chomping? (c? : Option Char) : Option Chomping :=
  if c? == some '+' then some .keep else if c? == some '-' then some .strip else none

/-- The digit that gives the indentation of a block scalar. -/
def increment? (c? : Option Char) : Option Nat :=
  c?.bind fun c => if c.isDigit then some (c.toNat - 0x30) else none

/-- The header of a block scalar: sign and digit in either order. -/
def blockHeader (p : Place) : Except Fault (Chomping × Option Nat × Place) := do
  let (sign, p) := match chomping? (p.peek 0) with
    | some s => (some s, p.next)
    | none => (none, p)
  let (digit, p) := match increment? (p.peek 0) with
    | some d => (some d, p.next)
    | none => (none, p)
  let (sign, p) := match sign, digit with
    | none, some _ =>
      match chomping? (p.peek 0) with
      | some s => (some s, p.next)
      | none => (none, p)
    | sign, _ => (sign, p)
  if digit == some 0 || !endsToken (p.peek 0) then throw .malformed
  return (sign.getD .clip, digit, p)

/-- The place after the rest of a line, which may hold a comment and nothing else. -/
def ignoredLine (p : Place) : Except Fault Place :=
  let p := p.skipSpaces.skipComment
  if p.rest.isEmpty || p.atBreak then .ok p.takeBreak.2 else .error .malformed

/-- Spaces up to a column. -/
def indentTo (column : Nat) (p : Place) : Place :=
  p.skip (min (p.rest.takeWhile (· == ' ')).length (column - p.column))

/-- The blank lines ahead, as their breaks, and the place in the first line after them, at the
given column or before. -/
def blankLines (column : Nat) (p : Place) : Nat → List Char × Place
  | 0 => ([], p)
  | fuel + 1 =>
    let p := indentTo column p
    if p.atBreak then
      let (b, p) := p.takeBreak
      let (bs, p) := blankLines column p fuel
      (b ++ bs, p)
    else ([], p)

/-- The blank lines at the start of a block scalar of unknown indentation: their breaks, the
column of the furthest text or space, and the place of the first text. -/
def leadingLines (deepest : Nat) (p : Place) : Nat → List Char × Nat × Place
  | 0 => ([], deepest, p)
  | fuel + 1 =>
    match p.rest with
    | c :: _ =>
      if c == ' ' then leadingLines (max deepest p.next.column) p.next fuel
      else if isBreak c then
        let (b, p) := p.takeBreak
        let (bs, deepest, p) := leadingLines deepest p fuel
        (b ++ bs, deepest, p)
      else ([], deepest, p)
    | [] => ([], deepest, p)

/-- The lines of a block scalar at column `indent`. `breaks` are the breaks of the blank lines
before the line at the place. -/
def blockLines (isFolded : Bool) (chomping : Chomping) (indent : Nat) (breaks : List Char)
    (lastBreak : List Char) (p : Place) : Nat → List Char × Place
  | 0 => (chomped chomping lastBreak breaks, p)
  | fuel + 1 =>
    if p.column = indent && !p.rest.isEmpty then
      let isText (p : Place) : Bool := !(p.peek 0 == some ' ' || p.peek 0 == some '\t')
      let startsWithText := isText p
      let (line, p) := p.takeWhile (!isBreak ·)
      let (lineBreak, p) := p.takeBreak
      let (after, p) := blankLines indent p p.rest.length
      if p.column = indent && !p.rest.isEmpty then
        let joint :=
          if isFolded && lineBreak == ['\n'] && startsWithText && isText p then
            if after.isEmpty then [' '] else []
          else lineBreak
        let (rest, p) := blockLines isFolded chomping indent after lineBreak p fuel
        (breaks ++ line ++ joint ++ rest, p)
      else (breaks ++ line ++ chomped chomping lineBreak after, p)
    else (chomped chomping lastBreak breaks, p)
where
  /-- What is left of the breaks at the end. -/
  chomped (chomping : Chomping) (lineBreak breaks : List Char) : List Char :=
    match chomping with
    | .strip => []
    | .clip => lineBreak
    | .keep => lineBreak ++ breaks

/-- The block scalar whose mark stands here. `outer` is the column of the block around it,
negative for none. -/
def blockScalar (isFolded : Bool) (outer : Int) (p : Place) :
    Except Fault (List Char × Place) := do
  let (chomping, increment, p) ← blockHeader p.next
  let p ← ignoredLine p
  let least := (max 1 (outer + 1)).toNat
  let (breaks, indent, p) := match increment with
    | none =>
      let (breaks, deepest, p) := leadingLines 0 p p.rest.length
      (breaks, max least deepest, p)
    | some n =>
      let indent := least + n - 1
      let (breaks, p) := blankLines indent p p.rest.length
      (breaks, indent, p)
  return blockLines isFolded chomping indent breaks [] p p.rest.length

end Place

end Headline.Yaml
