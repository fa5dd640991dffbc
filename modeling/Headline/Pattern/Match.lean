import Headline.Pattern.Cursor
import Headline.Pattern.Regex

/-!
# Matching

Patterns are matched by trying choices in order and going back on failure: an
alternative comes before those to its right, a greedy repetition tries another round
first, a reluctant one tries to stop first. What follows a part of a pattern is given to
it as a continuation, so that the part can offer its ways one after the other.

A round of a repetition beyond the least number is tried only if the place has changed
since the last such round began. So rounds that match nothing do not go on forever, and
the length of the rest of the text bounds the number of rounds.
-/

namespace Headline.Pattern

open Text

/-- The texts of the groups, latest first. -/
abbrev Captures := List (Nat × List Char)

/-- What a match ends with. -/
abbrev Found := Option (Cursor × Captures)

/-- What to do after a part of a pattern has matched. -/
abbrev Continue := Cursor → Captures → Found

/-- A part of a pattern as something that can be tried at a place. -/
abbrev Attempt := Cursor → Captures → Continue → Found

/-- The first of two results that is there. -/
def orTry (a : Found) (b : Unit → Found) : Found :=
  match a with
  | some r => some r
  | none => b ()

/-! ## Anchors -/

/-- Whether the character next to the place is a word character. -/
def besideWord (asciiOnly : Bool) (side : List Char) : Bool :=
  match side with
  | [] => false
  | c :: _ => CharClass.word.has asciiOnly c

/-- Whether a condition holds at a place. In the empty text there are no boundaries and
no places that are none. -/
def Anchor.holds (s : Cursor) : Anchor → Bool
  | textStart => s.before.isEmpty
  | textEnd => s.rest.isEmpty
  | lastLineEnd => s.rest.isEmpty || s.rest == ['\n']
  | lineStart => s.before.isEmpty || s.before.head? == some '\n'
  | lineEnd => s.rest.isEmpty || s.rest.head? == some '\n'
  | wordBoundary negated asciiOnly =>
    !(s.before.isEmpty && s.rest.isEmpty) &&
      (besideWord asciiOnly s.before != besideWord asciiOnly s.rest) != negated

/-! ## Repetition -/

/-- Rounds that have to be made. -/
def required (body : Attempt) : Nat → Attempt
  | 0, s, g, k => k s g
  | n + 1, s, g, k => body s g fun s g => required body n s g k

/-- Optional rounds, as many as possible first. `left` is the number of rounds that are
allowed, `last` the place where the last optional round began. -/
def greedyRounds (body : Attempt) : Nat → Option Nat → Option Nat → Attempt
  | 0, _, _, s, g, k => k s g
  | fuel + 1, left, last, s, g, k =>
    if left = some 0 || last = some s.offset then k s g
    else
      orTry
        (body s g fun s' g' => greedyRounds body fuel (left.map (· - 1)) (some s.offset) s' g' k)
        fun _ => k s g

/-- Optional rounds, as few as possible first. -/
def reluctantRounds (body : Attempt) : Nat → Option Nat → Option Nat → Attempt
  | 0, _, _, s, g, k => k s g
  | fuel + 1, left, last, s, g, k =>
    orTry (k s g) fun _ =>
      if left = some 0 || last = some s.offset then none
      else body s g fun s' g' =>
        reluctantRounds body fuel (left.map (· - 1)) (some s.offset) s' g' k

/-- Rounds that are made as long as they succeed and never taken back. -/
def possessiveRounds (body : Attempt) : Nat → Option Nat → Option Nat → Attempt
  | 0, _, _, s, g, k => k s g
  | fuel + 1, left, last, s, g, k =>
    if left = some 0 || last = some s.offset then k s g
    else match body s g fun s g => some (s, g) with
      | none => k s g
      | some (s', g') => possessiveRounds body fuel (left.map (· - 1)) (some s.offset) s' g' k

/-- Rounds that have to be made and are not taken back. -/
def possessiveRequired (body : Attempt) : Nat → Attempt
  | 0, s, g, k => k s g
  | n + 1, s, g, k =>
    match body s g fun s g => some (s, g) with
    | none => none
    | some (s', g') => possessiveRequired body n s' g' k

/-- A repetition. After the required rounds, each optional round but the last moves on, so
two more than the rest of the text are enough. -/
def repetition (greed : Greed) (min : Nat) (max : Option Nat) (body : Attempt) : Attempt :=
  fun s g k =>
    let left := max.map (· - min)
    match greed with
    | .greedy => required body min s g fun s g =>
        greedyRounds body (s.rest.length + 2) left none s g k
    | .reluctant => required body min s g fun s g =>
        reluctantRounds body (s.rest.length + 2) left none s g k
    | .possessive => possessiveRequired body min s g fun s g =>
        possessiveRounds body (s.rest.length + 2) left none s g k

/-! ## Patterns -/

/-- Whether two characters count as equal for a reference to a group. -/
def sameFolded (fold : Fold) (a b : Char) : Bool := fold.apply a.toNat == fold.apply b.toNat

/-- Whether a text starts with another one. -/
def startsWith (fold : Fold) : List Char → List Char → Bool
  | [], _ => true
  | _ :: _, [] => false
  | a :: as, b :: bs => sameFolded fold a b && startsWith fold as bs

/-- Try a pattern at a place, and go on with the continuation where it matches. -/
def Regex.attempt : Regex → Attempt
  | .empty => fun s g k => k s g
  | .char t => fun s g k =>
    match s.rest with
    | [] => none
    | c :: _ => if t.accepts c then k s.next g else none
  | .anchor a => fun s g k => if a.holds s then k s g else none
  | .seq a b => fun s g k => a.attempt s g fun s g => b.attempt s g k
  | .alt a b => fun s g k => orTry (a.attempt s g k) fun _ => b.attempt s g k
  | .capture group body => fun s g k =>
    body.attempt s g fun s' g' => k s' ((group, s.rest.take (s'.offset - s.offset)) :: g')
  | .rounds greed min max body => repetition greed min max body.attempt
  | .backref group fold => fun s g k =>
    match g.lookup group with
    | none => none
    | some text => if startsWith fold text s.rest then k (s.skip text.length) g else none
  | .conditional group yes no => fun s g k =>
    if (g.lookup group).isSome then yes.attempt s g k else no.attempt s g k
  | .ahead negated body => fun s g k =>
    match body.attempt s g fun s g => some (s, g) with
    | some (_, g') => if negated then none else k s g'
    | none => if negated then k s g else none
  | .behind negated width _ body => fun s g k =>
    match (s.back? width).bind fun b => body.attempt b g fun s g => some (s, g) with
    | some (_, g') => if negated then none else k s g'
    | none => if negated then k s g else none
  | .atomic body => fun s g k =>
    match body.attempt s g fun s g => some (s, g) with
    | some (s', g') => k s' g'
    | none => none

/-- Where the first match at a place ends; matches of nothing count only if `mayBeEmpty`. -/
def Regex.matchEnd? (r : Regex) (mayBeEmpty : Bool) (s : Cursor) : Option Cursor :=
  (r.attempt s [] fun s' g =>
    if !mayBeEmpty && s'.offset == s.offset then none else some (s', g)).map (·.1)

/-! ## Removing matches -/

/-- The text from a place on without the matches in it, found from left to right. A match
of nothing leaves the place where it is; there, a match of something is looked for next. -/
def Regex.removeFrom (r : Regex) (mayBeEmpty : Bool) (s : Cursor) : List Char :=
  match r.matchEnd? mayBeEmpty s with
  | some e =>
    if e.rest.length < s.rest.length then removeFrom r true e
    else if mayBeEmpty then removeFrom r false s
    else s.rest
  | none =>
    match s with
    | ⟨_, [], _⟩ => []
    | ⟨before, c :: cs, offset⟩ => c :: removeFrom r true ⟨c :: before, cs, offset + 1⟩
termination_by 2 * s.rest.length + mayBeEmpty.toNat
decreasing_by
  · have := mayBeEmpty.toNat_le
    simp only [Bool.toNat_true]
    omega
  · rename_i h
    simp [h]
  · simp only [List.length_cons, Bool.toNat_true]
    omega

def Regex.removeAll (r : Regex) (cs : List Char) : List Char := r.removeFrom true (Cursor.start cs)

end Headline.Pattern
