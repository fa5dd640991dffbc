/-!
# Classes of characters as ranges

A class of characters is an ascending list of closed ranges of code points, and
membership is one walk along it that stops at the first range beyond the
character. The lists are short enough for the walk, and a plain list is what the
kernel evaluates best.
-/

namespace Headline.Text

/-- Closed ranges of code points, ascending and apart. -/
abbrev Ranges := List (Nat × Nat)

namespace Ranges

def contains : Ranges → Nat → Bool
  | [], _ => false
  | (lo, hi) :: rest, n => if n < lo then false else n ≤ hi || contains rest n

def has (rs : Ranges) (c : Char) : Bool := contains rs c.toNat

end Ranges

end Headline.Text
