/-!
# Places in a YAML text

A line ends with a line feed, a next line character, a line separator or a paragraph separator.
Carriage returns have become line feeds when the text was read from its file. A byte order mark
takes up no column.
-/

namespace Headline.Yaml

/-- Whether a character ends a line. -/
def isBreak (c : Char) : Bool :=
  c == '\n' || c.toNat == 0x85 || c.toNat == 0x2028 || c.toNat == 0x2029

/-- Whether a token may end before a character: a space, the end of a line or of the text. -/
def endsToken (c? : Option Char) : Bool := (c?.map fun c => c == ' ' || isBreak c).getD true

/-- The same with tabs. -/
def isSeparator (c? : Option Char) : Bool := endsToken c? || c? == some '\t'

def byteOrderMark : Char := Char.ofNat 0xFEFF

/-- A place in a text. -/
structure Place where
  /-- what stands after the place -/
  rest : List Char
  index : Nat
  line : Nat
  column : Nat
deriving Repr, DecidableEq

namespace Place

def start (cs : List Char) : Place := ⟨cs, 0, 0, 0⟩

/-- The character some way ahead. -/
def peek (p : Place) (k : Nat) : Option Char := p.rest[k]?

def next (p : Place) : Place :=
  match p.rest with
  | [] => p
  | c :: cs =>
    if isBreak c then ⟨cs, p.index + 1, p.line + 1, 0⟩
    else ⟨cs, p.index + 1, p.line, if c == byteOrderMark then p.column else p.column + 1⟩

def skip : Nat → Place → Place
  | 0, p => p
  | k + 1, p => skip k p.next

/-- The characters ahead that satisfy a test, and the place after them. -/
def takeWhile (p : Place) (test : Char → Bool) : List Char × Place :=
  let cs := p.rest.takeWhile test
  (cs, p.skip cs.length)

/-- The place after the characters that satisfy a test. -/
def skipWhile (p : Place) (test : Char → Bool) : Place := (p.takeWhile test).2

def skipSpaces (p : Place) : Place := p.skipWhile (· == ' ')

/-- Whether the line ends here. -/
def atBreak (p : Place) : Bool := (p.rest.head?.map isBreak).getD false

/-- The characters that the end of a line stands for, and the place after it. Outside of the
end of a line there are none. -/
def takeBreak (p : Place) : List Char × Place :=
  match p.rest with
  | c :: _ =>
    if c == '\n' || c.toNat == 0x85 then (['\n'], p.next)
    else if isBreak c then ([c], p.next)
    else ([], p)
  | [] => ([], p)

/-- The place at the end of the line, past a comment if one stands here. -/
def skipComment (p : Place) : Place :=
  if p.peek 0 == some '#' then p.skipWhile (!isBreak ·) else p

/-- Whether the mark between documents, or the one after a document, stands here. -/
def atDocumentMark (p : Place) : Bool :=
  (p.rest.take 3 == ['-', '-', '-'] || p.rest.take 3 == ['.', '.', '.']) && isSeparator (p.peek 3)

end Place

end Headline.Yaml
