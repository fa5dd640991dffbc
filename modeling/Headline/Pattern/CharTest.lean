import Headline.Text.Alphanumeric
import Headline.Text.Blank
import Headline.Text.CaseTable
import Headline.Text.Casing
import Headline.Text.DecimalDigit

/-!
# Tests of one character

The part of a pattern that stands for one character is a set: code points, ranges and
classes, possibly negated. A set may ignore case. It then accepts a character if it
holds any character with the same lower-case form, or with a lower-case form that has
the same upper-case form.
-/

namespace Headline.Pattern

open Text

/-! ## Folding -/

/-- How far a comparison of characters ignores case. -/
inductive Fold where
  | exact
  /-- the ASCII letters only -/
  | ascii
  /-- all letters -/
  | full
deriving Repr, DecidableEq

/-- Lower-case characters that share their upper-case form, in groups. -/
def caseVariants : List (List Nat) :=
  [[0x69, 0x131], [0x73, 0x17F], [0xB5, 0x3BC], [0x345, 0x3B9, 0x1FBE], [0x390, 0x1FD3],
   [0x3B0, 0x1FE3], [0x3B2, 0x3D0], [0x3B5, 0x3F5], [0x3B8, 0x3D1], [0x3BA, 0x3F0],
   [0x3C0, 0x3D6], [0x3C1, 0x3F1], [0x3C2, 0x3C3], [0x3C6, 0x3D5], [0x432, 0x1C80],
   [0x434, 0x1C81], [0x43E, 0x1C82], [0x441, 0x1C83], [0x442, 0x1C84, 0x1C85], [0x44A, 0x1C86],
   [0x463, 0x1C87], [0x1C88, 0xA64B], [0x1E61, 0x1E9B], [0xFB05, 0xFB06]]

/-- The lower-case form of a code point as one code point. -/
def lowerPoint (n : Nat) : Nat :=
  match expansion? lowerExpansions n with
  | some (m :: _) => m
  | _ => CaseRow.shift lowerRows n

/-- The representative that a fold takes for a code point. -/
def Fold.apply : Fold → Nat → Nat
  | exact, n => n
  | ascii, n => if 0x41 ≤ n && n ≤ 0x5A then n + 0x20 else n
  | full, n => lowerPoint n

/-- The code point that a row of the case table maps to `n`. -/
def sourceIn (n : Nat) (r : CaseRow) : Option Nat :=
  let m := r.first + (n - r.image)
  if r.image ≤ n && m ≤ r.last && (m - r.first) % r.step = 0 then some m else none

/-- All code points whose lower-case form is `n`. -/
def lowerSources (n : Nat) : List Nat :=
  (if lowerPoint n = n then [n] else []) ++ lowerRows.filterMap (sourceIn n) ++
    lowerExpansions.filterMap fun e => if e.2.head? = some n then some e.1 else none

/-- The code points that count as equal to one with representative `n`. -/
def Fold.equals : Fold → Nat → List Nat
  | exact, n => [n]
  | ascii, n => if 0x61 ≤ n && n ≤ 0x7A then [n, n - 0x20] else [n]
  | full, n => ((caseVariants.find? (·.contains n)).getD [n]).flatMap lowerSources

/-! ## Sets -/

/-- A class of characters with a letter of its own. -/
inductive CharClass where
  | digit
  | space
  | word
deriving Repr, DecidableEq

/-- Whether a character belongs to a class, with or without the characters beyond ASCII. -/
def CharClass.has (asciiOnly : Bool) : CharClass → Char → Bool
  | digit, c => if asciiOnly then c.isDigit else isDigit c
  | space, c => if asciiOnly then c = ' ' || (9 ≤ c.toNat && c.toNat ≤ 13) else isBlank c
  | word, c => (if asciiOnly then c.isAlphanum else isAlphanumeric c) || c = '_'

/-- A member of a set of characters. -/
inductive SetItem where
  | point (n : Nat)
  | range (lo hi : Nat)
  | charClass (k : CharClass) (negated asciiOnly : Bool)
deriving Repr, DecidableEq

/-- Whether a member covers the character with representative `n`. A code point above
U+FFFF is compared with the representative alone, so a capital letter from there covers
nothing when case is ignored. -/
def SetItem.covers (fold : Fold) (n : Nat) : SetItem → Bool
  | point m => if m ≤ 0xFFFF then (fold.equals n).contains m else n = m
  | range lo hi => (fold.equals n).any fun m => lo ≤ m && m ≤ hi
  | charClass k negated asciiOnly => k.has asciiOnly (Char.ofNat n) != negated

/-- A set of characters. -/
structure CharTest where
  items : List SetItem
  negated : Bool
  fold : Fold
deriving Repr, DecidableEq

namespace CharTest

/-- Whether the set accepts a character. -/
def accepts (t : CharTest) (c : Char) : Bool :=
  t.items.any (SetItem.covers t.fold (t.fold.apply c.toNat)) != t.negated

/-- The set of the code points that count as equal to one, or of all others. -/
def ofPoint (n : Nat) (negated : Bool) (fold : Fold) : CharTest :=
  ⟨[.point (fold.apply n)], negated, fold⟩

/-- The set with the given members. One that holds a single code point is the set of its
equals, as if the code point stood by itself. -/
def ofItems (items : List SetItem) (negated : Bool) (fold : Fold) : CharTest :=
  match items.eraseDups with
  | [.point n] => ofPoint n negated fold
  | _ => ⟨items, negated, fold⟩

end CharTest

end Headline.Pattern
