import Headline.Value.Calendar

/-!
# Option values

Options come from callers and from files, and may at first be anything: a word list may
turn out to be a date. A value is therefore dynamic until the options are checked.

Mappings keep their entries in order of arrival. A key that arrives again keeps its
place and takes the new value. Keys are compared by meaning: `1`, `1.0` and `true`
are one key. What is no number at all is not the same key as anything.

A list or mapping may hold itself. Then it is cut where it comes to itself (`enclosing`). The
options in a mapping, and the members of an option, are taken out of it, and none of them is cut
where it comes to what it was taken out of.
-/

namespace Headline

/-- A value as it may stand in a file or in the options of a caller. -/
inductive Value where
  | null
  | bool (b : Bool)
  | int (n : Int)
  | float (x : Float)
  | str (s : String)
  | bytes (bs : List UInt8)
  | date (d : Date)
  | moment (m : Moment)
  | list (vs : List Value)
  | tuple (vs : List Value)
  /-- the members in the order in which they are gone through -/
  | set (vs : List Value)
  | map (entries : List (Value × Value))
  /-- a list or mapping that holds the place where this stands -/
  | enclosing (isMap : Bool)
deriving Repr, Inhabited

namespace Value

def typeName : Value → String
  | null => "NoneType"
  | bool _ => "bool"
  | int _ => "int"
  | float _ => "float"
  | str _ => "str"
  | bytes _ => "bytes"
  | date _ => "datetime.date"
  | moment _ => "datetime.datetime"
  | list _ => "list"
  | tuple _ => "tuple"
  | set _ => "set"
  | map _ => "dict"
  | enclosing isMap => if isMap then "dict" else "list"

/-- The last part of the type's name. -/
def shortTypeName : Value → String
  | date _ => "date"
  | moment _ => "datetime"
  | v => v.typeName

/-! ## Keys -/

/-- A finite number as a fraction `n / 2 ^ k`. -/
structure Dyadic where
  numerator : Int
  shift : Nat

/-- The value of a finite float. -/
def Dyadic.ofFloat (x : Float) : Dyadic :=
  let bits := x.toBits
  let e := ((bits >>> 52) &&& 0x7FF).toNat
  let f := (bits &&& 0xFFFFFFFFFFFFF).toNat
  let m := if e = 0 then f else 0x10000000000000 + f
  let q : Int := (if e = 0 then 1 else (e : Int)) - 1075
  let n : Int := (m <<< q.toNat : Nat)
  ⟨if bits >>> 63 == 1 then -n else n, (-q).toNat⟩

/-- The order of two fractions. -/
def Dyadic.compare (a b : Dyadic) : Ordering :=
  Ord.compare (a.numerator * (1 <<< b.shift : Nat)) (b.numerator * (1 <<< a.shift : Nat))

/-- A number of any kind. -/
inductive Number where
  | finite (d : Dyadic)
  | infinite (negative : Bool)
  | undefined

/-- The number that a value stands for; true counts one. -/
def number? : Value → Option Number
  | bool b => some (.finite ⟨if b then 1 else 0, 0⟩)
  | int n => some (.finite ⟨n, 0⟩)
  | float x =>
    if x.isNaN then some .undefined
    else if x.isInf then some (.infinite (x < 0))
    else some (.finite (.ofFloat x))
  | _ => none

/-- The order of two numbers, where they have one. -/
def Number.compare? : Number → Number → Option Ordering
  | undefined, _ => none
  | _, undefined => none
  | finite a, finite b => some (a.compare b)
  | infinite a, infinite b => some (if a = b then .eq else if a then .lt else .gt)
  | infinite a, finite _ => some (if a then .lt else .gt)
  | finite _, infinite b => some (if b then .gt else .lt)

/-- Whether two values are the same key of a mapping. -/
def sameKey : Value → Value → Bool
  | null, null => true
  | str a, str b => a == b
  | bytes a, bytes b => a == b
  | date a, date b => a == b
  | moment a, moment b => a.offset.isSome == b.offset.isSome && a.instant == b.instant
  | a, b =>
    match a.number?, b.number? with
    | some x, some y => x.compare? y == some .eq
    | _, _ => false

/-- Whether a value may be a key: lists, sets and mappings may not. -/
def isKey : Value → Bool
  | list _ => false
  | set _ => false
  | map _ => false
  | tuple _ => false
  | enclosing _ => false
  | _ => true

/-- Put an entry into the entries of a mapping, given which keys are the same. -/
def putEntryBy (same : Value → Value → Bool) (entries : List (Value × Value))
    (key value : Value) : List (Value × Value) :=
  match entries with
  | [] => [(key, value)]
  | (k, v) :: rest =>
    if same k key then (k, value) :: rest else (k, v) :: putEntryBy same rest key value

/-- Put an entry into the entries of a mapping. -/
def putEntry : List (Value × Value) → Value → Value → List (Value × Value) := putEntryBy sameKey

/-- The value of a text key. -/
def getStr? (entries : List (Value × Value)) (key : String) : Option Value :=
  (entries.find? fun e => e.1.sameKey (.str key)).map (·.2)

/-- Whether a value counts as absent where presence is asked for: null, false, zero and
everything empty. -/
def isEmptyLike : Value → Bool
  | null => true
  | bool b => !b
  | int n => n == 0
  | float x => x == 0.0
  | str s => s.isEmpty
  | bytes bs => bs.isEmpty
  | list vs => vs.isEmpty
  | tuple vs => vs.isEmpty
  | set vs => vs.isEmpty
  | map es => es.isEmpty
  | _ => false

/-- The texts of a list of values, if all of them are texts. -/
def texts? : List Value → Option (List String)
  | [] => some []
  | str s :: rest => (texts? rest).map (s :: ·)
  | _ :: _ => none

end Value

end Headline
