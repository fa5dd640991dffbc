import Headline.Decimal.Notation
import Headline.Text.Quoted
import Headline.Value.Basic

/-!
# Values in messages

A value is shown in one of two ways: literally, so that its type can be seen, or as
plain text. The two differ for texts, dates and times only. Whole numbers are shown up to a
number of digits; a value that is or holds a longer one cannot be shown at all.
-/

namespace Headline.Value

open Text

/-- A moment as the call that makes it. -/
def momentLiteral (m : Moment) : String :=
  let d := m.date
  let base := s!"{d.year}, {d.month}, {d.day}, {m.hour}, {m.minute}"
  let base := if m.second = 0 && m.micro = 0 then base else s!"{base}, {m.second}"
  let base := if m.micro = 0 then base else s!"{base}, {m.micro}"
  match m.offset with
  | none => s!"datetime.datetime({base})"
  | some 0 => s!"datetime.datetime({base}, tzinfo=datetime.timezone.utc)"
  | some s => s!"datetime.datetime({base}, tzinfo=datetime.timezone({spanText s}))"

/-- Why a value cannot be shown. -/
inductive DisplayFault where
  /-- the value is or holds a whole number of more than 4300 decimal digits -/
  | tooManyDigits
deriving Repr, DecidableEq

def DisplayFault.message : DisplayFault → String
  | tooManyDigits =>
    "Exceeds the limit (4300 digits) for integer string conversion; " ++
      "use sys.set_int_max_str_digits() to increase the limit"

/-- The least number that has too many digits to be shown. -/
def digitLimit : Nat := Nat.pow 10 4300

def wholeText (n : Int) : Except DisplayFault String :=
  if n.natAbs < digitLimit then .ok (toString n) else .error .tooManyDigits

mutual

/-- A value as a literal. -/
def literal : Value → Except DisplayFault String
  | null => .ok "None"
  | bool b => .ok (if b then "True" else "False")
  | int n => wholeText n
  | float x => .ok (Decimal.render x)
  | str s => .ok (quoted s)
  | bytes bs => .ok (quotedBytes bs)
  | date d => .ok s!"datetime.date({d.year}, {d.month}, {d.day})"
  | moment m => .ok (momentLiteral m)
  | list vs => do return "[" ++ ", ".intercalate (← literals vs) ++ "]"
  | tuple [v] => do return s!"({← literal v},)"
  | tuple vs => do return "(" ++ ", ".intercalate (← literals vs) ++ ")"
  | set [] => .ok "set()"
  | set vs => do return "\x7b" ++ ", ".intercalate (← literals vs) ++ "\x7d"
  | map es => do return "\x7b" ++ ", ".intercalate (← entryLiterals es) ++ "\x7d"
  | enclosing isMap => .ok (if isMap then "\x7b...\x7d" else "[...]")

def literals : List Value → Except DisplayFault (List String)
  | [] => .ok []
  | v :: vs => do return (← literal v) :: (← literals vs)

def entryLiterals : List (Value × Value) → Except DisplayFault (List String)
  | [] => .ok []
  | (k, v) :: es => do return s!"{← literal k}: {← literal v}" :: (← entryLiterals es)

end

/-- A value as plain text. -/
def text : Value → Except DisplayFault String
  | str s => .ok s
  | date d => .ok d.iso
  | moment m => .ok (m.isoWith " ")
  | v => v.literal

end Headline.Value
