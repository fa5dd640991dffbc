import Headline.Text.Numeral
import Headline.Value.Calendar

/-!
# What can be wrong with a YAML file

Most faults are faults of form, and these are not told apart. The others come from a scalar
whose form promises a value that it does not have.
-/

namespace Headline.Yaml

open Text

/-- Why a text has no value. -/
inductive Fault where
  /-- the text is no YAML, or holds something that has no value -/
  | malformed
  /-- an escape for a code point beyond the last -/
  | pointTooLarge (n : Nat)
  /-- a scalar that should be a whole number -/
  | badInt (fault : NumeralFault)
  /-- a number without any character -/
  | emptyNumber
  /-- a scalar that should be a number -/
  | badFloat (text : String)
  /-- a scalar that should be a truth value -/
  | badBool (text : String)
  /-- a place of a number whose weight is beyond all floats -/
  | placeTooLarge
  /-- a scalar that should be a date or a time -/
  | badTime
  /-- a mapping that should be a date or a time -/
  | timeOfMapping
  /-- a date or time that the calendar does not hold -/
  | calendar (fault : CalendarFault)
deriving Repr, DecidableEq

def Fault.message : Fault → String
  | malformed => "<yaml>"
  | pointTooLarge n =>
    if n < 0x80000000 then "chr() arg not in range(0x110000)"
    else "Python int too large to convert to C int"
  | badInt fault => fault.message
  | emptyNumber => "string index out of range"
  | badFloat text => s!"could not convert string to float: {quoted text}"
  | badBool text => quoted text
  | placeTooLarge => "int too large to convert to float"
  | badTime => "'NoneType' object has no attribute 'groupdict'"
  | timeOfMapping => "expected string or bytes-like object, got 'list'"
  | calendar fault => fault.message

end Headline.Yaml
