import Headline.Markdown.Entity
import Headline.Markdown.Punycode
import Headline.Text.Blank
import Headline.Text.Casing
import Headline.Text.Utf8

/-!
# Addresses as text

A bare address in angle brackets is its own text. It is shown readable: the host in its own
script, and escaped bytes as the characters that they encode, as long as these have no
meaning in addresses. To find the host the address is taken apart as a browser does it.
-/

namespace Headline.Markdown

open Text

/-- An address in parts. -/
structure Address where
  /-- the scheme with its colon, or nothing -/
  scheme : List Char
  /-- whether two slashes follow -/
  slashes : Bool
  /-- what stands before the last `@` -/
  user : List Char
  host : List Char
  /-- the digits of the port -/
  port : List Char
  /-- path, query and fragment -/
  rest : List Char
deriving Repr, DecidableEq

namespace Address

/-! ## Taking apart -/

def isSchemeChar (c : Char) : Bool := c.isAlphanum || c == '.' || c == '+' || c == '-'

/-- The scheme with its colon, and the rest. -/
def takeScheme (cs : List Char) : List Char × List Char :=
  let name := cs.takeWhile isSchemeChar
  match cs.drop name.length with
  | ':' :: rest => if name.isEmpty then ([], cs) else (name ++ [':'], rest)
  | _ => ([], cs)

/-- The schemes that need slashes before a host. -/
def slashedSchemes : List String :=
  ["http", "https", "ftp", "gopher", "file", "http:", "https:", "ftp:", "gopher:", "file:"]

/-- The scheme that never has a host. -/
def isHostless (scheme : String) : Bool := scheme == "javascript:"

/-- The characters that end the part in which a user may be named. -/
def endsAuthority (c : Char) : Bool := c == '/' || c == '?' || c == '#'

/-- The characters that end a host. -/
def endsHost (c : Char) : Bool :=
  "%/?;#'<>\"` \r\n\t|\\^".toList.contains c || c.toNat == 0x7B || c.toNat == 0x7D

/-- The position of the last `@` up to the end of the part in which a user may be named. -/
def userEnd? (cs : List Char) : Option Nat :=
  let part := cs.takeWhile fun c => !endsAuthority c
  (part.reverse.idxOf? '@').map fun i => part.length - 1 - i

/-- A host without the port, and the digits of the port. -/
def splitPort (cs : List Char) : List Char × List Char :=
  let digits := (cs.reverse.takeWhile Char.isDigit).reverse
  let before := cs.take (cs.length - digits.length)
  if before.getLast? = some ':' then (before.dropLast, digits) else (cs, [])

def isLabelChar (c : Char) : Bool := c.isAlphanum || c == '+' || c == '_' || c == '-'

/-- Whether a label of a host is well-formed. Characters beyond ASCII are allowed. -/
def isLabel (cs : List Char) : Bool :=
  cs.length ≤ 63 && cs.all fun c => isLabelChar c || c.toNat > 127

/-- The parts of a text between the characters that separate them. -/
def splitBy (isSeparator : Char → Bool) : List Char → List (List Char)
  | [] => [[]]
  | c :: cs =>
    if isSeparator c then [] :: splitBy isSeparator cs
    else match splitBy isSeparator cs with
      | [] => [[c]]
      | part :: parts => (c :: part) :: parts

/-- The labels of a host up to the first ill-formed one, of which only the good front is
kept, and the parts after it. -/
def goodLabels : List (List Char) → List (List Char) × List (List Char)
  | [] => ([], [])
  | label :: labels =>
    if isLabel label then
      let (good, bad) := goodLabels labels
      (label :: good, bad)
    else
      let front := (label.takeWhile isLabelChar).take 63
      ([front], label.drop front.length :: labels)

def joinLabels (labels : List (List Char)) : List Char := ['.'].intercalate labels

/-- The host, and what of it does not belong there. -/
def checkHost (host : List Char) : List Char × List Char :=
  if host.head? = some '[' && host.getLast? = some ']' then ((host.drop 1).dropLast, [])
  else
    let (good, bad) := goodLabels (splitBy (· == '.') host)
    let host := joinLabels good
    (if host.length > 255 then [] else host, joinLabels bad)

/-- Take an address apart. -/
def ofChars (cs : List Char) : Address :=
  let (scheme, rest) := takeScheme (trimBlank cs)
  let name := String.ofList scheme
  let slashes := rest.take 2 == ['/', '/']
  let (shown, rest) :=
    if slashes && !isHostless name then (true, rest.drop 2) else (false, rest)
  if !isHostless name && (slashes || (!scheme.isEmpty && !slashedSchemes.contains name)) then
    let (user, rest) := match userEnd? rest with
      | some i => (rest.take i, rest.drop (i + 1))
      | none => ([], rest)
    let authority := rest.takeWhile fun c => !endsHost c
    let authority :=
      if authority.getLast? = some ':' then authority.dropLast else authority
    let rest := rest.drop authority.length
    let (host, port) := splitPort authority
    let (host, outside) := checkHost host
    ⟨scheme, shown, user, host, port, outside ++ rest⟩
  else ⟨scheme, shown, [], [], [], rest⟩

/-! ## Putting together -/

def chars (a : Address) : List Char :=
  a.scheme ++ (if a.slashes then ['/', '/'] else []) ++
    (if a.user.isEmpty then [] else a.user ++ ['@']) ++
    (if a.host.contains ':' then '[' :: a.host ++ [']'] else a.host) ++
    (if a.port.isEmpty then [] else ':' :: a.port) ++ a.rest

def isLabelDot (c : Char) : Bool :=
  c == '.' || c.toNat == 0x3002 || c.toNat == 0xFF0E || c.toNat == 0xFF61

/-- A label in its own script. -/
def readableLabel (label : List Char) : Option (List Char) :=
  if label.take 4 == ['x', 'n', '-', '-'] then Punycode.decode? (lowerChars (label.drop 4))
  else some label

/-- A host in its own script, or unchanged if that fails for one of its labels. -/
def readableHost (host : List Char) : List Char :=
  match (splitBy isLabelDot host).mapM readableLabel with
  | some labels => joinLabels labels
  | none => host

/-! ## Escaped bytes -/

/-- The ASCII characters that stay escaped: they have a meaning in addresses. -/
def staysEscaped (n : Nat) : Bool := ";/?:@&=+$,#%".toList.contains (Char.ofNat n)

/-- How many bytes after the first one a character takes by its first byte. -/
def moreBytes (n : Nat) : Nat :=
  if n / 0x20 = 6 then 1 else if n / 0x10 = 14 then 2 else if n / 8 = 30 then 3 else 0

/-- The characters of escaped bytes. A byte that starts no character gives the replacement
character, and so does each byte of an encoding that is not allowed. -/
def decodeBytes : List Nat → List Char
  | [] => []
  | n :: ns =>
    if n < 0x80 then
      (if staysEscaped n then '%' :: [upperHex (n / 16), upperHex (n % 16)] else [Char.ofNat n]) ++
        decodeBytes ns
    else
      let k := moreBytes n
      let more := ns.take k
      if k ≠ 0 && more.length = k && more.all (fun b => b / 0x40 = 2) then
        (match Utf8.decode ((n :: more).map UInt8.ofNat) with
          | .ok cs => cs
          | .error _ => List.replicate (k + 1) replacement) ++ decodeBytes (ns.drop k)
      else replacement :: decodeBytes ns
termination_by ns => ns.length
decreasing_by all_goals simp; try omega
where
  /-- The upper-case hexadecimal digit of a value below sixteen. -/
  upperHex (n : Nat) : Char := if n < 10 then Char.ofNat (48 + n) else Char.ofNat (55 + n)

/-- A text with its escaped bytes decoded, run by run. `run` holds the bytes of the run that
goes on at the front. -/
def decodeEscapes (run : List Nat) : List Char → List Char
  | '%' :: a :: b :: cs =>
    if isHexDigit a && isHexDigit b then decodeEscapes (run ++ [hexValue [a, b]]) cs
    else decodeBytes run ++ '%' :: decodeEscapes [] (a :: b :: cs)
  | c :: cs => decodeBytes run ++ c :: decodeEscapes [] cs
  | [] => decodeBytes run

def readable (cs : List Char) : List Char :=
  let a := ofChars cs
  let scheme := String.ofList a.scheme
  let a :=
    if !a.host.isEmpty && (a.scheme.isEmpty || ["http:", "https:", "mailto:"].contains scheme) then
      { a with host := readableHost a.host }
    else a
  decodeEscapes [] a.chars

end Address

end Headline.Markdown
