import Headline.Text.Punctuation

/-!
# Emphasis

Runs of asterisks, low lines and tildes may open or close emphasis, depending on what stands
next to them. Marks are paired from left to right: a mark that may close is paired with the
nearest open one of its kind before it, and what lies between the two is closed off. Two runs
of which one could both open and close are not paired if their lengths add up to a multiple
of three, unless both lengths are.
-/

namespace Headline.Markdown

open Text

/-! ## What a run may do -/

/-- Whether a character counts as white space beside a run. -/
def isSpaceBeside (c : Char) : Bool :=
  let n := c.toNat
  (9 ≤ n && n ≤ 13) || n == 0x20 || n == 0xA0 || n == 0x1680 || (0x2000 ≤ n && n ≤ 0x200A) ||
    n == 0x202F || n == 0x205F || n == 0x3000

/-- Whether a run between two characters may open emphasis, and whether it may close it.
Inside of words it may only if `splitsWords`. -/
def flanks (splitsWords : Bool) (before after : Char) : Bool × Bool :=
  let spaceBefore := isSpaceBeside before
  let spaceAfter := isSpaceBeside after
  let markBefore := isPunctuation before
  let markAfter := isPunctuation after
  let left := !spaceAfter && (!markAfter || spaceBefore || markBefore)
  let right := !spaceBefore && (!markBefore || spaceAfter || markAfter)
  if splitsWords then (left, right)
  else (left && (!right || markBefore), right && (!left || markAfter))

/-! ## Pairing -/

/-- A mark that may open or close emphasis. -/
structure Delimiter where
  mark : Char
  /-- the length of the run that the mark belongs to; 0 where lengths do not matter -/
  length : Nat
  /-- the place of the mark among the tokens -/
  slot : Nat
  opens : Bool
  closes : Bool
  /-- the mark that closes this one -/
  partner : Option Nat
deriving Repr, DecidableEq, Inhabited

namespace Delimiter

/-- Whether an opening and a closing mark fit, as far as the lengths of their runs decide. -/
def fits (opener closer : Delimiter) : Bool :=
  !((opener.closes || closer.opens) && (opener.length + closer.length) % 3 == 0 &&
    (opener.length % 3 != 0 || closer.length % 3 != 0))

/-- Where the search for an opening mark may stop, for each mark, each length modulo three
and each answer to whether the closing mark may also open: nothing up to there was found
before. -/
abbrev Floors := List ((Char × Nat × Bool) × Int)

/-- The state of the pairing. -/
structure Pairing where
  marks : Array Delimiter
  /-- for each mark, how many marks before it can be passed over in one step -/
  jumps : Array Nat
  /-- the first mark of the run under way -/
  header : Nat
  /-- the place of the last mark, if the run may go on -/
  last : Option Nat
  floors : Floors
deriving Repr

namespace Pairing

def mark (p : Pairing) (i : Nat) : Delimiter := p.marks[i]?.getD default

/-- How many marks can be passed over before a mark. -/
def jump (p : Pairing) (i : Nat) : Nat := p.jumps[i]?.getD 0

/-- The number of the mark that opens what `closer` closes. The search starts at `i` and
stops at `floor`. -/
def opener? (p : Pairing) (closer : Delimiter) (floor : Int) : Nat → Int → Option Nat
  | 0, _ => none
  | fuel + 1, i =>
    if i ≤ floor then none
    else
      let o := p.mark i.toNat
      if o.mark == closer.mark && o.opens && o.partner.isNone && o.fits closer then some i.toNat
      else opener? p closer floor fuel (i - (p.jump i.toNat + 1))

/-- Pair the mark `i` with an earlier one if it closes one. -/
def step (p : Pairing) (i : Nat) : Pairing :=
  let closer := p.mark i
  let goesOn := (p.mark p.header).mark == closer.mark && p.last.map (· + 1) == some closer.slot
  let p := { p with
    jumps := p.jumps.push 0
    header := if goesOn then p.header else i
    last := some closer.slot }
  if !closer.closes then p
  else
    let key := (closer.mark, closer.length % 3, closer.opens)
    let start : Int := p.header - p.jump p.header - 1
    match p.opener? closer ((p.floors.lookup key).getD (-1)) (i + 1) start with
    | none => if start < 0 then p else { p with floors := (key, start) :: p.floors }
    | some j =>
      let before := if j > 0 && !(p.mark (j - 1)).opens then p.jump (j - 1) + 1 else 0
      { p with
        marks := (p.marks.modify i fun d => { d with opens := false }).modify j fun d =>
          { d with closes := false, partner := some i }
        jumps := (p.jumps.setIfInBounds i (i - j + before)).setIfInBounds j before
        last := none }

end Pairing

/-- The marks with their partners. -/
def pair (marks : Array Delimiter) : Array Delimiter :=
  ((List.range marks.size).foldl Pairing.step ⟨marks, #[], 0, none, []⟩).marks

end Delimiter

end Headline.Markdown
