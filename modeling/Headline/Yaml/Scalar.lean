import Headline.Decimal.Notation
import Headline.Pattern.Build
import Headline.Text.Casing
import Headline.Value.Basic
import Headline.Yaml.Fault

/-!
# The meaning of scalars

A plain scalar means what its form says: nothing, a truth value, a number, a date or time, or
else a text. Forms are those of YAML 1.1, so that `on` is true, `017` is fifteen and `1:30` is
ninety. A tag can demand a meaning, and then the text must fit it.
-/

namespace Headline.Yaml

open Pattern Pattern.Regex Text

/-- What a node is, according to its tag. -/
inductive Meaning where
  | null
  | bool
  | int
  | float
  | binary
  | time
  | orderedMap
  | pairs
  | set
  | str
  | sequence
  | mapping
  | merge
  /-- the key that stands for a mapping as a whole -/
  | default
  /-- a meaning that is not known, or that has no value -/
  | other
deriving Repr, DecidableEq

/-- The meaning of a tag. -/
def Meaning.ofTag (tag : String) : Meaning :=
  ([("null", null), ("bool", bool), ("int", int), ("float", float), ("binary", binary),
    ("timestamp", time), ("omap", orderedMap), ("pairs", pairs), ("set", set), ("str", str),
    ("seq", sequence), ("map", mapping), ("merge", merge), ("value", default)].find?
      fun e => "tag:yaml.org,2002:" ++ e.1 == tag).map (·.2) |>.getD other

/-! ## Forms -/

namespace Form

def digit : Regex := oneOf (rangeItems [('0', '9')])

/-- A decimal digit or a low line. -/
def digitOrLine : Regex := oneOf (rangeItems [('0', '9'), ('_', '_')])

def one (s : String) : Regex := oneOf (pointItems s)

def sign : Regex := opt (one "-+")

def anyOf (texts : List String) : Regex := altAll (texts.map exactly)

/-- An exponent, which needs a sign. -/
def exponent : Regex := opt (seqAll [one "eE", one "-+", manyOne digit])

/-- Places of sixty after a colon each. -/
def sixties : Regex :=
  manyOne (seqAll [exactly ":", opt (oneOf (rangeItems [('0', '5')])), digit])

def bool : Regex :=
  anyOf ["yes", "Yes", "YES", "no", "No", "NO", "true", "True", "TRUE", "false", "False", "FALSE",
    "on", "On", "ON", "off", "Off", "OFF"]

/-- Numbers with a point, and the special ones. -/
def float : Regex :=
  altAll
    [seqAll [sign, digit, many digitOrLine, exactly ".", many digitOrLine, exponent],
     seqAll [exactly ".", digit, many digitOrLine, exponent],
     seqAll [sign, digit, many digitOrLine, sixties, exactly ".", many digitOrLine],
     seqAll [sign, exactly ".", anyOf ["inf", "Inf", "INF"]],
     seqAll [exactly ".", anyOf ["nan", "NaN", "NAN"]]]

/-- Whole numbers: binary, octal, decimal, hexadecimal and with places of sixty. -/
def int : Regex :=
  altAll
    [seqAll [sign, exactly "0b", manyOne (oneOf (rangeItems [('0', '1'), ('_', '_')]))],
     seqAll [sign, exactly "0", manyOne (oneOf (rangeItems [('0', '7'), ('_', '_')]))],
     seqAll [sign, .alt (exactly "0") (.seq (oneOf (rangeItems [('1', '9')])) (many digitOrLine))],
     seqAll [sign, exactly "0x",
       manyOne (oneOf (rangeItems [('0', '9'), ('a', 'f'), ('A', 'F'), ('_', '_')]))],
     seqAll [sign, oneOf (rangeItems [('1', '9')]), many digitOrLine, sixties]]

def null : Regex := altAll [exactly "~", exactly "null", exactly "Null", exactly "NULL", .empty]

def two : Regex := .seq digit digit

def oneOrTwo : Regex := .seq digit (opt digit)

def gap : Regex := one " \t"

/-- A date, or a date with a time of day and perhaps a distance from universal time. -/
def time : Regex :=
  .alt (seqAll [two, two, exactly "-", two, exactly "-", two])
    (seqAll
      [two, two, exactly "-", oneOrTwo, exactly "-", oneOrTwo, .alt (one "Tt") (manyOne gap),
       oneOrTwo, exactly ":", two, exactly ":", two, opt (.seq (exactly ".") (many digit)),
       opt (.seq (many gap)
         (.alt (exactly "Z") (seqAll [one "-+", oneOrTwo, opt (.seq (exactly ":") two)])))])

/-- The forms in the order in which they are tried. -/
def all : List (Regex × Meaning) :=
  [(bool, .bool), (float, .float), (int, .int), (exactly "<<", .merge), (null, .null),
   (time, .time), (exactly "=", .default), (one "!&*", .other)]

end Form

/-- The meaning of a plain scalar, by its form. A line feed at the end does not count. -/
def Meaning.ofForm (text : String) : Meaning :=
  match Form.all.find? fun f => (seqAll [f.1, .anchor .lastLineEnd]).opens text.toList with
  | some (_, meaning) => meaning
  | none => str

/-! ## Values -/

/-- A text without low lines. -/
def withoutLines (cs : List Char) : List Char := cs.filter (· != '_')

/-- Whether a number is negative, and its text without the sign. -/
def splitSign : List Char → Bool × List Char
  | '-' :: cs => (true, cs)
  | '+' :: cs => (false, cs)
  | cs => (false, cs)

/-- The parts of a text between colons. -/
def splitColons : List Char → List (List Char)
  | [] => [[]]
  | c :: cs =>
    if c == ':' then [] :: splitColons cs
    else match splitColons cs with
      | [] => [[c]]
      | part :: parts => (c :: part) :: parts

def readIn (base : Nat) (cs : List Char) : Except Fault Int :=
  (readInt base (String.ofList cs)).mapError .badInt

def unsignedInt (cs : List Char) : Except Fault Int :=
  match cs with
  | [] => .error .emptyNumber
  | ['0'] => .ok 0
  | '0' :: 'b' :: ds => readIn 2 ds
  | '0' :: 'x' :: ds => readIn 16 ds
  | '0' :: _ => readIn 8 cs
  | _ =>
    if cs.contains ':' then do
      let parts ← (splitColons cs).mapM (readIn 10)
      return parts.foldl (fun n d => n * 60 + d) 0
    else readIn 10 cs

def intValue (text : String) : Except Fault Value := do
  let cs := withoutLines text.toList
  if cs.isEmpty then throw .emptyNumber
  let (negative, cs) := splitSign cs
  let n ← unsignedInt cs
  return .int (if negative then -n else n)

def readFloat (cs : List Char) : Except Fault Float :=
  let text := String.ofList cs
  match Decimal.read? text with
  | some x => .ok x
  | none => .error (.badFloat text)

/-- The sum of places of sixty, the last place first. A place counts by its weight as a float. -/
def sumSixties (weight : Nat) (acc : Float) : List Float → Except Fault Float
  | [] => .ok acc
  | x :: xs =>
    let w := Float.ofNat weight
    if w.isInf then .error .placeTooLarge else sumSixties (weight * 60) (acc + x * w) xs

def floatValue (text : String) : Except Fault Value := do
  let cs := lowerChars (withoutLines text.toList)
  if cs.isEmpty then throw .emptyNumber
  let (negative, cs) := splitSign cs
  let signed (x : Float) : Value := .float (if negative then -x else x)
  if cs == ['.', 'i', 'n', 'f'] then return signed Decimal.infinity
  else if cs == ['.', 'n', 'a', 'n'] then return .float Decimal.notANumber
  else if cs.contains ':' then
    let parts ← (splitColons cs).mapM readFloat
    return signed (← sumSixties 1 0.0 parts.reverse)
  else return signed (← readFloat cs)

def boolValue (text : String) : Except Fault Value :=
  let word := lower text
  if ["yes", "true", "on"].contains word then .ok (.bool true)
  else if ["no", "false", "off"].contains word then .ok (.bool false)
  else .error (.badBool word)

/-! ## Bytes -/

/-- The six bits that a character stands for in base 64. -/
def sixBits? (c : Char) : Option Nat :=
  if c.isUpper then some (c.toNat - 65)
  else if c.isLower then some (c.toNat - 71)
  else if c.isDigit then some (c.toNat + 4)
  else if c == '+' then some 62
  else if c == '/' then some 63
  else none

/-- The bytes written in base 64. Other characters are passed over. `place` is the place
within a group of four, `left` holds the bits not yet used, `pads` counts the padding met since
the last digit. -/
def base64? (place left pads : Nat) : List Char → Option (List UInt8)
  | [] => if place = 0 then some [] else none
  | c :: cs =>
    if c == '=' then
      if place ≥ 2 then
        if place + pads + 1 ≥ 4 then some [] else base64? place left (pads + 1) cs
      else base64? place left pads cs
    else
      match sixBits? c with
      | none => base64? place left pads cs
      | some n =>
        let all := left * 64 + n
        match place with
        | 0 => base64? 1 n 0 cs
        | 1 => (base64? 2 (all % 16) 0 cs).map (UInt8.ofNat (all / 16) :: ·)
        | 2 => (base64? 3 (all % 4) 0 cs).map (UInt8.ofNat (all / 4) :: ·)
        | _ => (base64? 0 0 0 cs).map (UInt8.ofNat all :: ·)

def binaryValue (text : String) : Except Fault Value :=
  if text.toList.all (·.toNat < 128) then
    match base64? 0 0 0 text.toList with
    | some bytes => .ok (.bytes bytes)
    | none => .error .malformed
  else .error .malformed

/-! ## Dates and times -/

/-- A number of `least` to `most` digits at the front. -/
def takeNumber? (least most : Nat) (cs : List Char) : Option (Nat × List Char) :=
  let ds := (cs.take most).takeWhile Char.isDigit
  if ds.length < least then none
  else some (ds.foldl (fun n d => n * 10 + (d.toNat - 48)) 0, cs.drop ds.length)

/-- A character at the front. -/
def take? (c : Char) : List Char → Option (List Char)
  | d :: cs => if c == d then some cs else none
  | [] => none

/-- Whether nothing is left but a line feed. -/
def isOver (cs : List Char) : Bool := cs.isEmpty || cs == ['\n']

/-- A fraction of a second in microseconds; further digits are dropped. -/
def microseconds (ds : List Char) : Nat :=
  ((ds ++ List.replicate 6 '0').take 6).foldl (fun n d => n * 10 + (d.toNat - 48)) 0

/-- The distance from universal time at the end of a time: in seconds, or unknown. -/
def offset? (cs : List Char) : Option (Option Int) :=
  if isOver cs then some none
  else
    match cs.dropWhile fun c => c == ' ' || c == '\t' with
    | 'Z' :: rest => if isOver rest then some (some 0) else none
    | c :: rest =>
      if c == '+' || c == '-' then do
        let (hours, rest) ← takeNumber? 1 2 rest
        let (minutes, rest) ← match take? ':' rest with
          | some rest => takeNumber? 2 2 rest
          | none => some (0, rest)
        let seconds : Int := (hours * 60 + minutes : Nat) * 60
        if isOver rest then some (some (if c == '-' then -seconds else seconds)) else none
      else none
    | [] => none

def timeValue (text : String) : Except Fault Value := do
  let some (year, month, day, rest) := date? text.toList | throw .badTime
  if isOver rest then return .date (← (Date.make year month day).mapError .calendar)
  let some (hour, minute, second, micro, offset) := clock? rest | throw .badTime
  let m := Moment.make year month day hour minute second micro offset
  return .moment (← m.mapError .calendar)
where
  /-- Year, month and day. -/
  date? (cs : List Char) : Option (Nat × Nat × Nat × List Char) := do
    let (year, cs) ← takeNumber? 4 4 cs
    let (month, cs) ← takeNumber? 1 2 (← take? '-' cs)
    let (day, cs) ← takeNumber? 1 2 (← take? '-' cs)
    return (year, month, day, cs)
  /-- Hour, minute, second, microsecond and the distance from universal time. -/
  clock? (cs : List Char) : Option (Nat × Nat × Nat × Nat × Option Int) := do
    let cs ← match cs with
      | 'T' :: rest => some rest
      | 't' :: rest => some rest
      | ' ' :: rest => some (rest.dropWhile fun c => c == ' ' || c == '\t')
      | '\t' :: rest => some (rest.dropWhile fun c => c == ' ' || c == '\t')
      | _ => none
    let (hour, cs) ← takeNumber? 1 2 cs
    let (minute, cs) ← takeNumber? 2 2 (← take? ':' cs)
    let (second, cs) ← takeNumber? 2 2 (← take? ':' cs)
    let (fraction, cs) := match take? '.' cs with
      | some rest => (rest.takeWhile Char.isDigit, rest.dropWhile Char.isDigit)
      | none => ([], cs)
    return (hour, minute, second, microseconds fraction, ← offset? cs)

end Headline.Yaml
