/-!
# Places in a text

A cursor is a place in a text together with the text on both sides of it.
-/

namespace Headline.Pattern

/-- A place in a text. -/
structure Cursor where
  /-- the characters before the place, nearest first -/
  before : List Char
  /-- the characters after the place -/
  rest : List Char
  /-- how many characters stand before the place -/
  offset : Nat
deriving Repr, DecidableEq

namespace Cursor

def start (cs : List Char) : Cursor := ⟨[], cs, 0⟩

def text (s : Cursor) : List Char := s.before.reverse ++ s.rest

/-- One character further, or the same place at the end. -/
def next (s : Cursor) : Cursor :=
  match s.rest with
  | [] => s
  | c :: cs => ⟨c :: s.before, cs, s.offset + 1⟩

def skip : Nat → Cursor → Cursor
  | 0, s => s
  | n + 1, s => skip n s.next

/-- A number of characters back, if there are as many. -/
def back? : Nat → Cursor → Option Cursor
  | 0, s => some s
  | n + 1, s =>
    match s.before with
    | [] => none
    | c :: cs => back? n ⟨cs, c :: s.rest, s.offset - 1⟩

end Cursor

end Headline.Pattern
