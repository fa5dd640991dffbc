/-!
# The shortest decimal of a binary number

A finite binary number stands for all reals that round to it. Of the decimals among
them, the one with the fewest digits identifies the number, and of two such decimals
the nearer. The search is exact: everything is compared by cross multiplication of
naturals.
-/

namespace Headline.Decimal

/-- A finite non-negative binary number, `m * 2 ^ q`. -/
structure Binary where
  m : Nat
  q : Int
  /-- the gap below is half the gap above: the number is a power of two -/
  narrowBelow : Bool
deriving Repr, DecidableEq

/-- A decimal, `digits * 10 ^ exp`. -/
structure Digits where
  digits : Nat
  exp : Int
deriving Repr, DecidableEq

/-- The magnitude held by the bits of a finite number. -/
def Binary.ofBits (bits : UInt64) : Binary :=
  let e := ((bits >>> 52) &&& 0x7FF).toNat
  let f := (bits &&& 0xFFFFFFFFFFFFF).toNat
  if e = 0 then ⟨f, -1074, false⟩ else ⟨0x10000000000000 + f, (e : Int) - 1075, f == 0 && e > 1⟩

/-- Compare `a * 10 ^ i` with `n * 2 ^ j`. -/
def compareScaled (a : Nat) (i : Int) (n : Nat) (j : Int) : Ordering :=
  compare ((a * Nat.pow 10 i.toNat) <<< (-j).toNat) ((n * Nat.pow 10 (-i).toNat) <<< j.toNat)

/-- Whether a decimal lies among the reals that round to the number. The ends of their
interval belong to it when the number is even. -/
def Binary.readsBack (x : Binary) (d : Digits) : Bool :=
  let low := compareScaled d.digits d.exp (4 * x.m - if x.narrowBelow then 1 else 2) (x.q - 2)
  let high := compareScaled d.digits d.exp (4 * x.m + 2) (x.q - 2)
  let closed := x.m % 2 == 0
  (low == .gt || closed && low == .eq) && (high == .lt || closed && high == .eq)

/-- The quotient of the number by `10 ^ e`, rounded down. -/
def Binary.floorOver (x : Binary) (e : Int) : Nat :=
  ((x.m * Nat.pow 10 (-e).toNat) <<< x.q.toNat) / (Nat.pow 10 e.toNat <<< (-x.q).toNat)

/-- The multiple of `10 ^ e` to take for the number, if one of its two neighbours on
that grid reads back. On a tie the even one is taken. -/
def Binary.onGrid (x : Binary) (e : Int) : Option Digits :=
  let below := x.floorOver e
  let lower : Digits := ⟨below, e⟩
  let upper : Digits := ⟨below + 1, e⟩
  match x.readsBack lower, x.readsBack upper with
  | true, false => some lower
  | false, true => some upper
  | false, false => none
  | true, true =>
    match compareScaled (2 * below + 1) e (2 * x.m) x.q with
    | .gt => some lower
    | .lt => some upper
    | .eq => some (if below % 2 == 0 then lower else upper)

/-- The least `k` with the number below `10 ^ k`, searched upward from a bound that is
not above it. -/
def Binary.scale (x : Binary) : Int :=
  let bits := (Nat.log2 x.m : Int) + x.q
  let start := bits * 30103 / 100000 - 1
  let above := fun (i : Nat) => compareScaled 1 (start + i) x.m x.q == .gt
  start + ((List.range 5).find? above).getD 0

/-- The decimal without trailing zeros in its digits. -/
def Digits.strip (d : Digits) : Digits := go 400 d
where
  go : Nat → Digits → Digits
    | 0, d => d
    | fuel + 1, d =>
      if d.digits ≠ 0 && d.digits % 10 == 0 then go fuel ⟨d.digits / 10, d.exp + 1⟩ else d

/-- The shortest decimal that reads back, the nearest of those; the exact value should
seventeen digits not suffice. -/
def Binary.shortest (x : Binary) : Digits :=
  if x.m = 0 then ⟨0, 0⟩
  else
    let k := x.scale
    match (List.range 17).findSome? fun (n : Nat) => x.onGrid (k - 1 - n) with
    | some d => d.strip
    | none => Digits.strip ⟨(x.m * Nat.pow 5 (-x.q).toNat) <<< x.q.toNat, -((-x.q).toNat : Int)⟩

end Headline.Decimal
