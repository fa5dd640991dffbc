import Headline.Pattern.CharTest

/-!
# Patterns as trees

A pattern is a tree over tests of single characters. Flags are already resolved: each
test knows whether it ignores case, each anchor whether it looks at lines.
-/

namespace Headline.Pattern

/-- A condition on a place in the text. -/
inductive Anchor where
  | textStart
  | textEnd
  /-- the end of the text, or before a line feed that ends it -/
  | lastLineEnd
  | lineStart
  | lineEnd
  /-- a change between word characters and others -/
  | wordBoundary (negated asciiOnly : Bool)
deriving Repr, DecidableEq

/-- How a repetition chooses the number of rounds. -/
inductive Greed where
  /-- as many as possible, fewer on failure -/
  | greedy
  /-- as few as possible, more on failure -/
  | reluctant
  /-- as many as possible, never fewer -/
  | possessive
deriving Repr, DecidableEq

/-- A pattern. -/
inductive Regex where
  | empty
  | char (t : CharTest)
  | anchor (a : Anchor)
  | seq (a b : Regex)
  | alt (a b : Regex)
  | capture (group : Nat) (body : Regex)
  | rounds (greed : Greed) (min : Nat) (max : Option Nat) (body : Regex)
  | backref (group : Nat) (fold : Fold)
  | conditional (group : Nat) (yes no : Regex)
  | ahead (negated : Bool) (body : Regex)
  /-- a look at the `width` characters before the place; `widest` is the greatest width
  of the body, which has to be the same -/
  | behind (negated : Bool) (width widest : Nat) (body : Regex)
  | atomic (body : Regex)
deriving Repr, DecidableEq

namespace Regex

/-- The pattern for one after the other. -/
def seqAll : List Regex → Regex
  | [] => .empty
  | [r] => r
  | r :: rs => .seq r (seqAll rs)

/-- The pattern for one of several, the first that fits. -/
def altAll : List Regex → Regex
  | [] => .empty
  | [r] => r
  | r :: rs => .alt r (altAll rs)

/-- A width beyond all that is counted. -/
def widthLimit : Nat := 0x10000000000000000

/-- The bound for the number of rounds of a repetition. -/
def roundLimit : Nat := 4294967295

/-- The least and the greatest number of characters that a pattern matches, given the
widths of the groups that it refers to. -/
def width (groups : Nat → Nat × Nat) : Regex → Nat × Nat
  | empty => (0, 0)
  | char _ => (1, 1)
  | anchor _ => (0, 0)
  | seq a b =>
    let (i, j) := width groups a
    let (l, h) := width groups b
    (Nat.min (i + l) widthLimit, Nat.min (j + h) widthLimit)
  | alt a b =>
    let (i, j) := width groups a
    let (l, h) := width groups b
    (Nat.min i l, Nat.max j h)
  | capture _ body => width groups body
  | rounds _ min max body =>
    let (i, j) := width groups body
    (Nat.min (i * min) widthLimit,
      match max with
      | some m => Nat.min (j * m) widthLimit
      | none => if j = 0 then 0 else widthLimit)
  | backref g _ => groups g
  | conditional _ yes no =>
    let (i, j) := width groups yes
    let (l, h) := width groups no
    (Nat.min i l, Nat.max j h)
  | ahead _ _ => (0, 0)
  | behind _ _ _ _ => (0, 0)
  | atomic body => width groups body

end Regex

end Headline.Pattern
