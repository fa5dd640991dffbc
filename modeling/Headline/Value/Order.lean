import Headline.Value.Basic

/-!
# Sorting values

Numbers, texts, runs of bytes, dates and moments have an order among themselves; other
pairs have none. Sorting inserts each value into the sorted ones before it by halving,
after the run at the front that is in order or strictly descending, and fails at the
first comparison of a pair without order.
-/

namespace Headline.Value

/-- Why two values cannot be compared. -/
inductive OrderFault where
  /-- values of two types that have no common order -/
  | unordered (left right : Value)
  /-- a date and a moment -/
  | momentWithDate
  /-- a moment with and one without a known distance from universal time -/
  | mixedOffsets
deriving Repr

namespace OrderFault

def message : OrderFault → String
  | unordered l r => s!"'<' not supported between instances of '{l.typeName}' and '{r.typeName}'"
  | momentWithDate => "can't compare datetime.datetime to datetime.date"
  | mixedOffsets => "can't compare offset-naive and offset-aware datetimes"

end OrderFault

/-- Whether the first value comes strictly before the second. -/
def before : Value → Value → Except OrderFault Bool
  | str a, str b => .ok (a < b)
  | bytes a, bytes b => .ok (decide (a < b))
  | date a, date b => .ok (a.dayNumber < b.dayNumber)
  | moment a, moment b =>
    if a.offset.isSome == b.offset.isSome then .ok (a.instant < b.instant) else .error .mixedOffsets
  | moment _, date _ => .error .momentWithDate
  | date _, moment _ => .error .momentWithDate
  | a, b =>
    match a.number?, b.number? with
    | some x, some y => .ok (x.compare? y == some .lt)
    | _, _ => .error (.unordered a b)

/-- The length of the run at the front that strictly descends, or else ascends. The
first argument says which; `last` is the last value of the run. -/
def runLength (descending : Bool) (last : Value) : List Value → Except OrderFault Nat
  | [] => .ok 0
  | v :: vs => do
    if (← v.before last) == descending then return (← runLength descending v vs) + 1 else return 0

/-- Where a value goes in sorted values between two positions: after all that are not
greater, found by halving. -/
def insertPosition (sorted : Array Value) (v : Value) (lo hi : Nat) : Except OrderFault Nat :=
  if _h : lo < hi then
    let mid := lo + (hi - lo) / 2
    match sorted[mid]? with
    | none => .ok lo
    | some w =>
      match v.before w with
      | .error e => .error e
      | .ok true => insertPosition sorted v lo mid
      | .ok false => insertPosition sorted v (mid + 1) hi
  else .ok lo
termination_by hi - lo
decreasing_by all_goals omega

def insertAll (sorted : List Value) : List Value → Except OrderFault (List Value)
  | [] => .ok sorted
  | v :: vs =>
    match insertPosition sorted.toArray v 0 sorted.length with
    | .error e => .error e
    | .ok i => insertAll (sorted.take i ++ v :: sorted.drop i) vs

/-- The values in ascending order; equal ones keep their order. -/
def sorted : List Value → Except OrderFault (List Value)
  | a :: b :: rest => do
    let descending ← b.before a
    let n := (← runLength descending b rest) + 2
    let run := (a :: b :: rest).take n
    insertAll (if descending then run.reverse else run) ((a :: b :: rest).drop n)
  | vs => .ok vs

end Headline.Value
