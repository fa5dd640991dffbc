import Headline.Pattern.Match

/-!
# Patterns put together by hand

Some patterns are fixed parts of the library. They are built from these pieces, so that no
text has to be read and nothing can fail.
-/

namespace Headline.Pattern

/-- The items of a class written as ranges of characters. -/
def rangeItems (ranges : List (Char × Char)) : List SetItem :=
  ranges.map fun r => .range r.1.toNat r.2.toNat

/-- The items of a class written as its characters. -/
def pointItems (s : String) : List SetItem := s.toList.map fun c => .point c.toNat

namespace Regex

def oneOf (items : List SetItem) : Regex := .char ⟨items, false, .exact⟩

def noneOf (items : List SetItem) : Regex := .char ⟨items, true, .exact⟩

def literal (fold : Fold) (s : String) : Regex :=
  seqAll (s.toList.map fun c => .char ⟨[.point c.toNat], false, fold⟩)

/-- The characters of a text in exactly their letter case. -/
def exactly (s : String) : Regex := literal .exact s

/-- The characters of one of several texts, in any letter case. -/
def anyCase (texts : List String) : Regex := altAll (texts.map (literal .full))

/-- Any number of rounds, as many as possible. -/
def many (r : Regex) : Regex := .rounds .greedy 0 none r

def manyOne (r : Regex) : Regex := .rounds .greedy 1 none r

/-- Any number of rounds, as few as possible. -/
def fewest (r : Regex) : Regex := .rounds .reluctant 0 none r

def opt (r : Regex) : Regex := .rounds .greedy 0 (some 1) r

def blank : Regex := oneOf [.charClass .space false false]

/-- Any character, line feeds included. -/
def anyChar : Regex := noneOf []

/-- How many characters a match at the front of a text covers. -/
def prefixLength? (r : Regex) (cs : List Char) : Option Nat :=
  (r.matchEnd? true (Cursor.start cs)).map (·.offset)

def opens (r : Regex) (cs : List Char) : Bool := (r.prefixLength? cs).isSome

def occursIn (r : Regex) : List Char → Bool
  | [] => r.opens []
  | c :: cs => r.opens (c :: cs) || occursIn r cs

end Regex

end Headline.Pattern
