import Headline.Decimal.Shortest
import Headline.Text.Blank
import Headline.Text.DecimalDigit

/-!
# Writing and reading decimals

Numbers are written with the fewest digits that identify them, positionally from
10⁻⁴ up to below 10¹⁶ and otherwise with a signed exponent of at least two digits. A whole
number keeps `.0`, zero keeps its sign, and the special values are `inf` and `nan`.

Reading is more liberal: the point and the exponent are optional, and single low lines
may stand between digits.
-/

namespace Headline.Decimal

/-! ## Writing -/

def digitChars (n : Nat) : List Char := Nat.toDigits 10 n

/-- An exponent with its sign and at least two digits. -/
def exponentText (e : Int) : List Char :=
  let ds := digitChars e.natAbs
  'e' :: (if e < 0 then '-' else '+') :: (if ds.length < 2 then '0' :: ds else ds)

/-- A decimal laid out. Its leading digit counts `10 ^ e`. -/
def layout (d : Digits) : List Char :=
  let ds := digitChars d.digits
  let e : Int := d.exp + ds.length - 1
  if d.digits = 0 then ['0', '.', '0']
  else if -4 ≤ e && e < 16 then
    if e < 0 then '0' :: '.' :: List.replicate (-e - 1).toNat '0' ++ ds
    else
      let whole := e.toNat + 1
      if ds.length ≤ whole then ds ++ List.replicate (whole - ds.length) '0' ++ ['.', '0']
      else ds.take whole ++ '.' :: ds.drop whole
  else match ds with
    | [d] => d :: exponentText e
    | d :: rest => d :: '.' :: rest ++ exponentText e
    | [] => exponentText e

def render (x : Float) : String :=
  if x.isNaN then "nan"
  else
    let bits := x.toBits
    let sign := if bits >>> 63 == 1 then ['-'] else []
    if x.isInf then String.ofList (sign ++ ['i', 'n', 'f'])
    else String.ofList (sign ++ layout (Binary.ofBits bits).shortest)

/-! ## Reading -/

def infinity : Float := Float.ofBits 0x7FF0000000000000

/-- The number that is no number. -/
def notANumber : Float := Float.ofBits 0x7FF8000000000000

/-- Decimal digits with single low lines between them, as far as they go: their value,
their count and the rest. -/
def takeDigits : List Char → Nat → Nat → Nat × Nat × List Char
  | '_' :: c :: cs, acc, count =>
    if count ≠ 0 && c.isDigit then takeDigits cs (acc * 10 + (c.toNat - 48)) (count + 1)
    else (acc, count, '_' :: c :: cs)
  | c :: cs, acc, count =>
    if c.isDigit then takeDigits cs (acc * 10 + (c.toNat - 48)) (count + 1)
    else (acc, count, c :: cs)
  | [], acc, count => (acc, count, [])

/-- The exponent at the front, if there is one: its value and the rest. -/
def takeExponent : List Char → Int × List Char
  | c :: cs =>
    if c = 'e' || c = 'E' then
      let (negative, body) := match cs with
        | '-' :: r => (true, r)
        | '+' :: r => (false, r)
        | r => (false, r)
      let (value, count, rest) := takeDigits body 0 0
      if count = 0 then (0, c :: cs) else (if negative then -(value : Int) else value, rest)
    else (0, c :: cs)
  | [] => (0, [])

/-- The number `mantissa * 10 ^ exp`, correctly rounded. Exponents far outside the range
of the type are settled without computing the power. -/
def ofScientific (mantissa : Nat) (digits : Nat) (exp : Int) : Float :=
  if mantissa = 0 then 0.0
  else if exp + digits > 400 then infinity
  else if exp + digits < -400 then 0.0
  else Float.ofScientific mantissa (exp < 0) exp.natAbs

/-- A number without sign: digits with an optional point and exponent, or the name of a
special value in any letter case. -/
def readUnsigned (cs : List Char) : Option Float :=
  let name := String.ofList (cs.map Char.toLower)
  if name = "inf" || name = "infinity" then some infinity
  else if name = "nan" then some notANumber
  else
    let (whole, wholeCount, rest) := takeDigits cs 0 0
    let (mantissa, fracCount, rest) := match rest with
      | '.' :: r => takeDigits r whole 0
      | r => (whole, 0, r)
    if wholeCount + fracCount = 0 then none
    else
      let (e, rest) := takeExponent rest
      if rest.isEmpty then some (ofScientific mantissa (wholeCount + fracCount) (e - fracCount))
      else none

/-- A digit of any script as an ASCII digit; other characters as they are. -/
def asciiDigit (c : Char) : Char :=
  match Text.digitValue c with
  | some d => Char.ofNat (48 + d)
  | none => c

/-- Read a number, with white space around it and a sign in front allowed. -/
def read? (s : String) : Option Float :=
  match (Text.trimBlank s.toList).map asciiDigit with
  | '-' :: cs => (readUnsigned cs).map (-·)
  | '+' :: cs => readUnsigned cs
  | cs => readUnsigned cs

end Headline.Decimal
