import Headline.Text.CaseTable

/-!
# Upper and lower case

The full case mappings of texts: one character may become several ("ß" is "SS" in
upper case), and a capital sigma becomes "ς" at the end of a word and "σ" elsewhere.
All other characters are mapped one by one, whatever stands beside them.
-/

namespace Headline.Text

/-! ## Single characters -/

/-- The code point that the rows map `n` to; `n` itself where no row applies. -/
def CaseRow.shift : List CaseRow → Nat → Nat
  | [], n => n
  | r :: rest, n =>
    if n < r.first then n
    else if n ≤ r.last then
      if (n - r.first) % r.step = 0 then r.image + (n - r.first) else n
    else shift rest n

/-- The expansion listed for a code point. -/
def expansion? : List (Nat × List Nat) → Nat → Option (List Nat)
  | [], _ => none
  | (k, cs) :: rest, n =>
    if n < k then none else if n = k then some cs else expansion? rest n

/-- The full mapping given by rows and expansions. -/
def mapCase (rows : List CaseRow) (expansions : List (Nat × List Nat)) (c : Char) : List Char :=
  match expansion? expansions c.toNat with
  | some cs => cs.map Char.ofNat
  | none => [Char.ofNat (CaseRow.shift rows c.toNat)]

def upperChar (c : Char) : List Char := mapCase upperRows upperExpansions c

/-- The lower-case form of a character away from the end of a word. -/
def lowerChar (c : Char) : List Char := mapCase lowerRows lowerExpansions c

def isCaseIgnorable (c : Char) : Bool := caseIgnorableRanges.has c

def isCased (c : Char) : Bool := casedRanges.has c

/-! ## Texts -/

/-- Whether the first character that is not skipped has a case. -/
def meetsCased : List Char → Bool
  | [] => false
  | c :: cs => if isCaseIgnorable c then meetsCased cs else isCased c

/-- The lower-case form of a text, given the characters before it, nearest first. A
capital sigma is final when a cased character stands before it and none after it. -/
def lowerAfter (before : List Char) : List Char → List Char
  | [] => []
  | c :: cs =>
    (if c = 'Σ' then
      [if meetsCased before && !meetsCased cs then 'ς' else 'σ']
    else lowerChar c) ++ lowerAfter (c :: before) cs

def lowerChars (cs : List Char) : List Char := lowerAfter [] cs

def upperChars (cs : List Char) : List Char := cs.flatMap upperChar

def lower (s : String) : String := String.ofList (lowerChars s.toList)

def upper (s : String) : String := String.ofList (upperChars s.toList)

end Headline.Text
