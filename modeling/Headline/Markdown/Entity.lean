import Headline.Markdown.EntityTable

/-!
# Character references and escapes

A character can be written by a name or a number between an ampersand and a semicolon, and a
punctuation character of ASCII by a backslash before it. Numbers that stand for no character,
or for one that must not occur, give the replacement character inside a line.
-/

namespace Headline.Markdown

/-- The characters of a name, if HTML knows the name. -/
def namedEntity? (name : String) : Option String :=
  EntityTable.rows.findSome? (·.lookup name)

/-- Whether a code point may be written by its number: no surrogate, no code point that is
never a character, and of the control characters only tab, line feed, form feed and carriage
return. -/
def isValidPoint (n : Nat) : Bool :=
  !(0xD800 ≤ n && n ≤ 0xDFFF) && !(0xFDD0 ≤ n && n ≤ 0xFDEF) &&
  n % 0x10000 != 0xFFFF && n % 0x10000 != 0xFFFE &&
  !(n ≤ 0x08) && n != 0x0B && !(0x0E ≤ n && n ≤ 0x1F) && !(0x7F ≤ n && n ≤ 0x9F) && n ≤ 0x10FFFF

def replacement : Char := Char.ofNat 0xFFFD

def isHexDigit (c : Char) : Bool :=
  c.isDigit || ('a' ≤ c && c ≤ 'f') || ('A' ≤ c && c ≤ 'F')

def hexDigitValue (c : Char) : Nat :=
  if c.isDigit then c.toNat - 0x30 else if 'a' ≤ c then c.toNat - 0x57 else c.toNat - 0x37

def hexValue (cs : List Char) : Nat := cs.foldl (fun n c => n * 16 + hexDigitValue c) 0

def decimalValue (cs : List Char) : Nat := cs.foldl (fun n c => n * 10 + (c.toNat - 0x30)) 0

/-- A number after `#`, of at most the given counts of digits. -/
def numberOf? (maxHex maxDecimal : Nat) (body : List Char) : Option Nat :=
  match body with
  | [] => none
  | c :: ds =>
    if c = 'x' || c = 'X' then
      if !ds.isEmpty && ds.length ≤ maxHex && ds.all isHexDigit then some (hexValue ds) else none
    else if body.length ≤ maxDecimal && body.all Char.isDigit then some (decimalValue body)
    else none

/-- The text between an ampersand, which is already taken, and the next semicolon; at most 32
characters of it are looked at. -/
def referenceBody? (cs : List Char) : Option (List Char) :=
  let body := (cs.take 33).takeWhile (· != ';')
  if cs[body.length]? = some ';' then some body else none

/-- A reference whose ampersand is already taken: the characters that it stands for, and
its length after the ampersand. -/
def entityAt? (cs : List Char) : Option (String × Nat) :=
  match referenceBody? cs with
  | none => none
  | some ('#' :: body) =>
    (numberOf? 6 7 body).map fun n =>
      (String.ofList [if isValidPoint n then Char.ofNat n else replacement], body.length + 2)
  | some body => (namedEntity? (String.ofList body)).map (·, body.length + 1)

/-! ## Escapes -/

/-- Whether a backslash takes the meaning from a character. -/
def isEscapable (c : Char) : Bool :=
  let n := c.toNat
  (0x21 ≤ n && n ≤ 0x2F) || (0x3A ≤ n && n ≤ 0x40) || (0x5B ≤ n && n ≤ 0x60) ||
    (0x7B ≤ n && n ≤ 0x7E)

/-- What a reference in a link stands for, where it stands for anything. -/
def linkEntity? (body : List Char) : Option String :=
  match namedEntity? (String.ofList body) with
  | some s => some s
  | none =>
    match body with
    | '#' :: number =>
      match numberOf? 8 8 number with
      | some n => if isValidPoint n then some (String.ofList [Char.ofNat n]) else none
      | none => none
    | _ => none

/-- A text with its escapes and references resolved. -/
def unescape : List Char → List Char
  | [] => []
  | c :: cs =>
    if c = '\\' then
      match cs with
      | d :: ds => if isEscapable d then d :: unescape ds else c :: unescape (d :: ds)
      | [] => [c]
    else if c = '&' then
      match (referenceBody? cs).bind fun body => (linkEntity? body).map ((·, body.length + 1)) with
      | some (s, n) => s.toList ++ unescape (cs.drop n)
      | none => c :: unescape cs
    else c :: unescape cs
termination_by cs => cs.length
decreasing_by all_goals simp; try omega

end Headline.Markdown
