/-!
# Punycode

A label of a host name that ASCII cannot write is encoded: its ASCII characters come first,
then a hyphen, then numbers that say which character is to be inserted where. The numbers
have digits of varying weight, and how the weight varies adapts to the numbers read so far.
-/

namespace Headline.Markdown.Punycode

/-- The value of a digit: the letters count from 0, the decimal digits from 26. -/
def digit? (c : Char) : Option Nat :=
  let n := c.toNat
  if 0x61 ≤ n && n ≤ 0x7A then some (n - 0x61)
  else if 0x41 ≤ n && n ≤ 0x5A then some (n - 0x41)
  else if 0x30 ≤ n && n ≤ 0x39 then some (n - 22)
  else none

/-- The least value that a digit at a place needs for the number to go on after it. -/
def threshold (place bias : Nat) : Nat := min 26 (max 1 (36 * (place + 1) - bias))

/-- A number at the front, and the rest. `weight` is the weight of the digit at `place`. -/
def number? (bias place weight acc : Nat) : List Char → Option (Nat × List Char)
  | [] => none
  | c :: cs =>
    match digit? c with
    | none => none
    | some d =>
      let t := threshold place bias
      if d < t then some (acc + d * weight, cs)
      else number? bias (place + 1) (weight * (36 - t)) (acc + d * weight) cs

/-- Divide by 35 until the value is at most 455, and count the divisions. -/
def reduce (divisions value : Nat) : Nat → Nat × Nat
  | 0 => (divisions, value)
  | fuel + 1 => if value > 455 then reduce (divisions + 1) (value / 35) fuel else (divisions, value)

/-- The bias after a number, given the count of characters so far. -/
def adapt (delta : Nat) (isFirst : Bool) (count : Nat) : Nat :=
  let d := if isFirst then delta / 700 else delta / 2
  let (divisions, value) := reduce 0 (d + d / count) d
  36 * divisions + 36 * value / (value + 38)

/-- Insert the characters that the numbers describe. `next` is the position at which the
search for the next insertion starts, `point` the last code point inserted. -/
def insertAll (bias point next : Nat) (isFirst : Bool) (base : List Char) :
    Nat → List Char → Option (List Char)
  | _, [] => some base
  | 0, _ => some base
  | fuel + 1, c :: cs =>
    match number? bias 0 1 0 (c :: cs) with
    | none => none
    | some (delta, rest) =>
      let slots := base.length + 1
      let point := point + (next + delta) / slots
      let place := (next + delta) % slots
      if h : point.isValidChar then
        let base := base.take place ++ Char.ofNatAux point h :: base.drop place
        insertAll (adapt delta isFirst base.length) point (place + 1) false base fuel rest
      else none

def lastHyphen? (cs : List Char) : Option Nat :=
  (cs.reverse.idxOf? '-').map fun i => cs.length - 1 - i

/-- Decode a label, which is taken without its mark. -/
def decode? (cs : List Char) : Option (List Char) :=
  if cs.any fun c => c.toNat > 127 then none
  else
    let (base, numbers) := match lastHyphen? cs with
      | some i => (cs.take i, cs.drop (i + 1))
      | none => ([], cs)
    insertAll 72 0x80 0 true base numbers.length numbers

end Headline.Markdown.Punycode
