import Headline.Text.Blank
import Headline.Text.DecimalDigit
import Headline.Text.Quoted

/-!
# Numerals

Reading whole numbers written in a base. White space around the numeral is skipped, a
sign may stand in front, the digits may be of any script, and single low lines may
separate them. A numeral in base 2, 8 or 16 may start with `0b`, `0o` or `0x`.
-/

namespace Headline.Text

/-- Why a text is no numeral. -/
inductive NumeralFault where
  /-- the text has another form -/
  | malformed (base : Nat) (text : String)
  /-- a decimal numeral of more than 4300 digits -/
  | tooLong (digits : Nat)
deriving Repr, DecidableEq

namespace NumeralFault

/-- The wording of a fault. The quoted text is cut after 200 characters. -/
def message : NumeralFault → String
  | malformed base text =>
    s!"invalid literal for int() with base {base}: {String.ofList ((quoted text).toList.take 200)}"
  | tooLong digits =>
    "Exceeds the limit (4300 digits) for integer string conversion: " ++
      s!"value has {digits} digits; use sys.set_int_max_str_digits() to increase the limit"

end NumeralFault

/-- The value of a digit or letter in bases up to 36. -/
def digitInBase (c : Char) : Option Nat :=
  match digitValue c with
  | some d => some d
  | none =>
    let n := c.toNat
    if 0x61 ≤ n && n ≤ 0x7A then some (n - 0x57)
    else if 0x41 ≤ n && n ≤ 0x5A then some (n - 0x37)
    else none

/-- Digits below the base, with single low lines between them. `needDigit` says that a digit
must come next, `acc` holds the value so far. -/
def digitsValue (base : Nat) (needDigit : Bool) (acc : Nat) : List Char → Option Nat
  | [] => if needDigit then none else some acc
  | '_' :: cs => if needDigit then none else digitsValue base true acc cs
  | c :: cs =>
    match digitInBase c with
    | some d => if d < base then digitsValue base false (acc * base + d) cs else none
    | none => none

/-- A numeral without sign, its prefix taken off. A low line may follow the prefix. -/
def unsignedValue (base : Nat) (cs : List Char) : Option Nat :=
  let body := fun (letter : Char) =>
    match cs with
    | '0' :: c :: '_' :: d :: rest =>
      if c.toLower = letter then digitsValue base true 0 (d :: rest) else digitsValue base true 0 cs
    | '0' :: c :: d :: rest =>
      if c.toLower = letter then digitsValue base true 0 (d :: rest) else digitsValue base true 0 cs
    | _ => digitsValue base true 0 cs
  if base = 2 then body 'b' else if base = 8 then body 'o' else if base = 16 then body 'x'
  else digitsValue base true 0 cs

/-- Read a whole number written in the given base. -/
def readInt (base : Nat) (s : String) : Except NumeralFault Int :=
  let cs := trimBlank s.toList
  let (negative, digits) := match cs with
    | '-' :: rest => (true, rest)
    | '+' :: rest => (false, rest)
    | rest => (false, rest)
  match unsignedValue base digits with
  | none => .error (.malformed base s)
  | some n =>
    let count := (digits.filter (· != '_')).length
    if base = 10 && count > 4300 then .error (.tooLong count)
    else .ok (if negative then -(n : Int) else n)

end Headline.Text
