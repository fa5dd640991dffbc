import Headline.Pattern.Fault
import Headline.Pattern.Regex
import Headline.Text.Identifier

/-!
# Reading patterns

A pattern is read from left to right, one token at a time. A token is a character, or a
backslash with the character after it; a backslash with nothing after it is noticed as
soon as it comes next. The reader keeps the flags for the whole pattern, which can only
be set at its very start, the names and widths of the groups closed so far, and the
places where a group was asked for by number before it was known.

Each step of the reader takes a token or goes one level down, so a bound on the number of
steps is known from the length of the pattern.
-/

namespace Headline.Pattern

open Text

/-! ## The reader's state -/

/-- A flag that changes how a pattern is read or matched. -/
inductive Flag where
  | ignoreCase
  | multiline
  | dotAll
  | verbose
  | ascii
  | unicode
  | template
  | locale
deriving Repr, DecidableEq

def Flag.ofLetter? : Char → Option Flag
  | 'i' => some ignoreCase
  | 'm' => some multiline
  | 's' => some dotAll
  | 'x' => some verbose
  | 'a' => some ascii
  | 'u' => some unicode
  | 't' => some template
  | 'L' => some locale
  | _ => none

/-- Whether a flag chooses the alphabet; only one such flag can be on. -/
def Flag.choosesAlphabet : Flag → Bool
  | ascii => true
  | unicode => true
  | locale => true
  | _ => false

/-- The flags in force inside a group that turns some on and some off. -/
def combineFlags (flags on off : List Flag) : List Flag :=
  let kept := if on.any Flag.choosesAlphabet then flags.filter (!·.choosesAlphabet) else flags
  (kept ++ on).filter (!off.contains ·)

/-- The character with a name, if there is one. What names there are is for the standard of
characters to say, so patterns are read by any table of names. -/
abbrev CharacterNames := String → Option Char

/-- What the reader knows. -/
structure Builder where
  /-- the characters from the next token on, and their place -/
  rest : List Char
  pos : Nat
  /-- the flags of the whole pattern -/
  flags : List Flag
  /-- the numbers of the named groups -/
  names : List (String × Nat)
  /-- the widths of the groups, absent while a group is open; the first stands for the
  whole pattern -/
  widths : List (Option (Nat × Nat))
  /-- inside a look behind, the number of groups that were there before it -/
  lookbehindFrom : Option Nat
  /-- groups asked for by number, with the first place, latest first -/
  references : List (Nat × Nat)
  /-- the characters that have names -/
  characters : CharacterNames

/-- The reader: a state, and a fault that ends the reading. -/
abbrev Parse := StateT Builder (Except Fault)

/-- A token: one character, or a backslash and the character after it. -/
abbrev Token := List Char

/-- The token at the front. -/
def nextToken : List Char → Option Token
  | [] => none
  | '\\' :: c :: _ => some ['\\', c]
  | c :: _ => some [c]

namespace Parse

def peek : Parse (Option Token) := do return nextToken (← get).rest

def tell : Parse Nat := do return (← get).pos

/-- Fail with a reason, `back` characters before the next token. -/
def failBack {α : Type} (problem : Problem) (back : Nat) : Parse α := do
  throw (.located problem ((← get).pos - back))

/-- Fail with a reason at a known place. -/
def failAt {α : Type} (problem : Problem) (pos : Nat) : Parse α :=
  throw (.located problem pos)

/-- Go to a place whose remaining characters are given. -/
def moveTo (rest : List Char) (pos : Nat) : Parse Unit := do
  if rest = ['\\'] then throw (.located .escapeAtEnd pos)
  modify fun b => { b with rest := rest, pos := pos }

def take : Parse (Option Token) := do
  let b ← get
  match nextToken b.rest with
  | none => return none
  | some t =>
    moveTo (b.rest.drop t.length) (b.pos + t.length)
    return some t

def accept (c : Char) : Parse Bool := do
  if (← peek) = some [c] then
    let _ ← take
    return true
  else return false

/-- Take single characters of a class, at most the given number. -/
def takeWhile (p : Char → Bool) : Nat → Parse (List Char)
  | 0 => return []
  | n + 1 => do
    match ← peek with
    | some [c] =>
      if p c then
        let _ ← take
        return c :: (← takeWhile p n)
      else return []
    | _ => return []

/-- Take tokens up to a closing character, which is taken too. -/
def takeUntil (terminator : Char) (what : String) : Nat → List Char → Parse (List Char)
  | 0, _ => failBack (.missingName what) 0
  | fuel + 1, taken => do
    match ← take with
    | none =>
      if taken.isEmpty then failBack (.missingName what) 0
      else failBack (.unterminatedName terminator.toString what) taken.length
    | some t =>
      if t = [terminator] then
        if taken.isEmpty then failBack (.missingName what) 1 else return taken
      else takeUntil terminator what fuel (taken ++ t)

/-- Take a name up to a closing character. -/
def takeName (terminator : Char) (what : String) : Parse String := do
  return String.ofList (← takeUntil terminator what ((← get).rest.length + 1) [])

/-- Refuse a group name that is no identifier. -/
def checkName (name : String) : Parse Unit := do
  if !isIdentifier name.toList then failBack (.badGroupName name) (name.length + 1)

def isClosed (group : Nat) : Parse Bool := do
  return ((← get).widths[group]?.join).isSome

/-- Refuse a reference, inside a look behind, to a group that is open or stands in it. -/
def checkLookbehind (group : Nat) : Parse Unit := do
  match (← get).lookbehindFrom with
  | none => return
  | some before =>
    if !(← isClosed group) then failBack .openGroup 0
    if group ≥ before then failBack .groupInLookbehind 0

def groupWidths : Parse (Nat → Nat × Nat) := do
  let widths := (← get).widths
  return fun g => (widths[g]?.join).getD (0, 0)

end Parse

open Parse

/-! ## Escapes -/

/-- What an escape stands for. -/
inductive Escape where
  | point (n : Nat)
  | item (s : SetItem)
  | anchor (a : Anchor)
  | backref (group : Nat)

def isOctal (c : Char) : Bool := '0' ≤ c && c ≤ '7'

def isHex (c : Char) : Bool :=
  c.isDigit || ('a' ≤ c && c ≤ 'f') || ('A' ≤ c && c ≤ 'F')

def digitsIn (base : Nat) (cs : List Char) : Nat :=
  cs.foldl (fun n c => n * base + (digitInBase c).getD 0) 0

/-- A character given by exactly `width` hexadecimal digits after its letter. -/
def hexEscape (letter : Char) (width : Nat) : Parse Escape := do
  let ds ← takeWhile isHex width
  let text := '\\' :: letter :: ds
  if ds.length ≠ width then failBack (.incompleteEscape (String.ofList text)) text.length
  let n := digitsIn 16 ds
  if n ≥ 0x80000000 then throw .escapeTooLarge
  if n ≥ 0x110000 then failBack (.badEscape (String.ofList text)) text.length
  return .point n

/-- A character given by its name. -/
def namedEscape : Parse Escape := do
  if !(← accept (Char.ofNat 0x7B)) then failBack .missingBrace 0
  let name ← takeName (Char.ofNat 0x7D) "character name"
  match (← get).characters name with
  | some c => return .point c.toNat
  | none => failBack (.undefinedName name) (name.length + 4)

/-- The class of characters with a letter; the upper-case letter negates it. -/
def classItem? (asciiOnly : Bool) : Char → Option SetItem
  | 'd' => some (.charClass .digit false asciiOnly)
  | 'D' => some (.charClass .digit true asciiOnly)
  | 's' => some (.charClass .space false asciiOnly)
  | 'S' => some (.charClass .space true asciiOnly)
  | 'w' => some (.charClass .word false asciiOnly)
  | 'W' => some (.charClass .word true asciiOnly)
  | _ => none

/-- The control character with a letter, and the backslash. -/
def controlPoint? : Char → Option Nat
  | 'a' => some 7
  | 'f' => some 12
  | 'n' => some 10
  | 'r' => some 13
  | 't' => some 9
  | 'v' => some 11
  | '\\' => some 92
  | _ => none

/-- The condition with a letter. -/
def anchor? (asciiOnly : Bool) : Char → Option Anchor
  | 'A' => some .textStart
  | 'Z' => some .textEnd
  | 'b' => some (.wordBoundary false asciiOnly)
  | 'B' => some (.wordBoundary true asciiOnly)
  | _ => none

/-- An escape that ends in an unknown character: a fault for letters and digits, else the
character itself. -/
def plainEscape (c : Char) : Parse Escape := do
  if c.isAlphanum then failBack (.badEscape (String.ofList ['\\', c])) 2
  return .point c.toNat

/-- An octal escape of up to three digits, the first of which is already taken. -/
def octalEscape (first : List Char) : Parse Escape := do
  let text := '\\' :: first
  let n := digitsIn 8 first
  if n > 0o377 then failBack (.octalTooLarge (String.ofList text)) text.length
  return .point n

/-- An escape inside a set, its token already taken. -/
def setEscape (asciiOnly : Bool) (c : Char) : Parse Escape := do
  if c = 'b' then return .point 8
  match controlPoint? c, classItem? asciiOnly c with
  | some n, _ => return .point n
  | _, some s => return .item s
  | none, none =>
    if c = 'x' then hexEscape c 2
    else if c = 'u' then hexEscape c 4
    else if c = 'U' then hexEscape c 8
    else if c = 'N' then namedEscape
    else if isOctal c then octalEscape (c :: (← takeWhile isOctal 2))
    else plainEscape c

/-- A reference to a group by its number, as written. -/
def groupEscape (digits : List Char) : Parse Escape := do
  let group := digitsIn 10 digits
  if group < (← get).widths.length then
    if !(← isClosed group) then failBack .openGroup (digits.length + 1)
    checkLookbehind group
    return .backref group
  failBack (.noSuchGroup group) digits.length

/-- An escape that starts with a digit other than zero: three octal digits are a
character, anything else is the number of a group. -/
def digitEscape (c : Char) : Parse Escape := do
  match ← takeWhile Char.isDigit 1 with
  | [] => groupEscape [c]
  | d =>
    if isOctal c && d.all isOctal then
      match ← takeWhile isOctal 1 with
      | [] => groupEscape (c :: d)
      | e => octalEscape (c :: d ++ e)
    else groupEscape (c :: d)

/-- An escape outside a set, its token already taken. -/
def escape (asciiOnly : Bool) (c : Char) : Parse Escape := do
  match anchor? asciiOnly c, classItem? asciiOnly c, controlPoint? c with
  | some a, _, _ => return .anchor a
  | _, some s, _ => return .item s
  | _, _, some n => return .point n
  | none, none, none =>
    if c = 'x' then hexEscape c 2
    else if c = 'u' then hexEscape c 4
    else if c = 'U' then hexEscape c 8
    else if c = 'N' then namedEscape
    else if c = '0' then return .point (digitsIn 8 (← takeWhile isOctal 2))
    else if c.isDigit then digitEscape c
    else plainEscape c

/-! ## Sets -/

/-- The member of a set that an escape stands for. -/
def Escape.setItem : Escape → SetItem
  | point n => .point n
  | item s => s
  | anchor _ => .point 0
  | backref _ => .point 0

/-- One end of a range or a member of a set, given by its token. -/
def setMember (asciiOnly : Bool) : Token → Parse Escape
  | [c] => return .point c.toNat
  | ['\\', c] => setEscape asciiOnly c
  | _ => return .point 0

/-- The members of a set up to its closing bracket. `start` is the place of the opening
bracket. A closing bracket that comes first is a member. -/
def setItems (asciiOnly : Bool) (start : Nat) : Nat → List SetItem → Parse (List SetItem)
  | 0, items => return items
  | fuel + 1, items => do
    match ← take with
    | none => failAt .unterminatedSet start
    | some this =>
      if this = [']'] && !items.isEmpty then return items
      let low ← setMember asciiOnly this
      if ← accept '-' then
        match ← take with
        | none => failAt .unterminatedSet start
        | some [']'] => return items ++ [low.setItem, .point 0x2D]
        | some that =>
          let high ← setMember asciiOnly that
          let bad : Problem := .badRange (String.ofList this) (String.ofList that)
          match low, high with
          | .point lo, .point hi =>
            if hi < lo then failBack bad (this.length + 1 + that.length)
            setItems asciiOnly start fuel (items ++ [.range lo hi])
          | _, _ => failBack bad (this.length + 1 + that.length)
      else setItems asciiOnly start fuel (items ++ [low.setItem])

/-! ## Flags -/

/-- What a group's flags say. -/
inductive FlagGroup where
  /-- flags for the whole pattern -/
  | whole
  /-- flags turned on and off inside the group -/
  | scoped (on off : List Flag)

def flagOf? : Token → Option Flag
  | [c] => Flag.ofLetter? c
  | _ => none

def isLetterToken : Token → Bool
  | [c] => isLetter c
  | _ => false

/-- The flags that are turned on, starting with one already taken; also the token that
ends them. -/
def flagsOn : Nat → Flag → List Flag → Parse (List Flag × Char)
  | 0, _, on => return (on, ':')
  | fuel + 1, flag, on => do
    if flag = .locale then failBack .localeFlag 0
    let on := on ++ [flag]
    if flag.choosesAlphabet && on.any fun f => f.choosesAlphabet && f ≠ flag then
      failBack .incompatibleFlags 0
    match ← take with
    | none => failBack .missingFlagEnd 0
    | some [')'] => return (on, ')')
    | some ['-'] => return (on, '-')
    | some [':'] => return (on, ':')
    | some t =>
      match flagOf? t with
      | some flag => flagsOn fuel flag on
      | none => failBack (if isLetterToken t then .unknownFlag else .missingFlagEnd) t.length

/-- The flags that are turned off, starting with one already taken, up to the colon. -/
def flagsOff : Nat → Flag → List Flag → Parse (List Flag)
  | 0, _, off => return off
  | fuel + 1, flag, off => do
    if flag.choosesAlphabet then failBack .typeFlagOff 0
    let off := off ++ [flag]
    match ← take with
    | none => failBack .missingColon 0
    | some [':'] => return off
    | some t =>
      match flagOf? t with
      | some flag => flagsOff fuel flag off
      | none => failBack (if isLetterToken t then .unknownFlag else .missingColon) t.length

/-- The flags of a group; the first token of them is already taken. -/
def flagGroup (first : Token) : Parse FlagGroup := do
  let fuel := (← get).rest.length + 1
  let (on, ending) ← match flagOf? first with
    | some flag => flagsOn fuel flag []
    | none => pure ([], '-')
  if ending = ')' then
    modify fun b => { b with flags := b.flags ++ on }
    return .whole
  if on.contains .template then failBack .globalFlagOn 1
  let off ←
    if ending = '-' then
      match ← take with
      | none => failBack .missingFlag 0
      | some t =>
        match flagOf? t with
        | some flag => flagsOff fuel flag []
        | none => failBack (if isLetterToken t then .unknownFlag else .missingFlag) t.length
    else pure []
  if off.contains .template then failBack .globalFlagOff 1
  if on.any off.contains then failBack .flagOnAndOff 1
  return .scoped on off

/-! ## Items of a sequence -/

/-- What an item of a sequence is to a repetition that follows it. -/
inductive ItemKind where
  /-- a condition, which cannot be repeated -/
  | anchor
  /-- a repetition, which cannot be repeated again -/
  | rounds
  | other
deriving DecidableEq

structure Item where
  kind : ItemKind
  regex : Regex

/-- How tests compare under the given flags. -/
def foldOf (flags : List Flag) : Fold :=
  if !flags.contains .ignoreCase then .exact
  else if flags.contains .ascii then .ascii
  else .full

/-- The item that stands for one code point. -/
def pointItem (flags : List Flag) (n : Nat) : Item :=
  ⟨.other, .char (.ofPoint n false (foldOf flags))⟩

/-- The item that an escape stands for. -/
def Escape.toItem (flags : List Flag) : Escape → Item
  | point n => pointItem flags n
  | item s => ⟨.other, .char ⟨[s], false, foldOf flags⟩⟩
  | anchor a => ⟨.anchor, .anchor a⟩
  | backref g => ⟨.other, .backref g (foldOf flags)⟩

def dotItem (flags : List Flag) : Item :=
  ⟨.other, .char ⟨if flags.contains .dotAll then [] else [.point 10], true, .exact⟩⟩

/-- A bound of a repetition, if one is written. -/
def bound? (ds : List Char) : Parse (Option Nat) := do
  if ds.isEmpty then return none
  if ds.length > 4300 then throw (.longBound (.tooLong ds.length))
  let n := digitsIn 10 ds
  if n ≥ Regex.roundLimit then throw .tooManyRounds
  return some n

/-- The bounds of a repetition whose first character is taken; absent if a brace turns
out to stand for itself. -/
def roundBounds (c : Char) : Parse (Option (Nat × Option Nat)) := do
  if c = '?' then return some (0, some 1)
  if c = '*' then return some (0, none)
  if c = '+' then return some (1, none)
  let b ← get
  if (← peek) = some [Char.ofNat 0x7D] then return none
  let lo ← takeWhile Char.isDigit b.rest.length
  let hi ← if ← accept ',' then takeWhile Char.isDigit b.rest.length else pure lo
  if !(← accept (Char.ofNat 0x7D)) then
    moveTo b.rest b.pos
    return none
  let min := (← bound? lo).getD 0
  let max ← bound? hi
  if max.any (· < min) then failAt .badRepeatBounds b.pos
  return some (min, max)

/-- How willingly a repetition goes on, as the character after it says. -/
def takeGreed : Parse Greed := do
  if ← accept '?' then return .reluctant
  if ← accept '+' then return .possessive
  return .greedy

/-- Repeat the last of the items; `pos` is the place of the repetition. -/
def repeatLast (items : List Item) (min : Nat) (max : Option Nat) (pos : Nat) :
    Parse (List Item) := do
  match items with
  | [] => failAt .nothingToRepeat pos
  | last :: before =>
    if last.kind = .anchor then failAt .nothingToRepeat pos
    if last.kind = .rounds then failAt .multipleRepeat pos
    let greed ← takeGreed
    return ⟨.rounds, .rounds greed min max last.regex⟩ :: before

/-- Skip a comment up to the end of its line. -/
def skipLine : Nat → Parse Unit
  | 0 => return
  | fuel + 1 => do
    match ← take with
    | none => return
    | some ['\n'] => return
    | some _ => skipLine fuel

/-- Skip a comment group; `start` is the place of its opening parenthesis. -/
def skipComment (start : Nat) : Nat → Parse Unit
  | 0 => return
  | fuel + 1 => do
    match ← peek with
    | none => failAt .unterminatedComment start
    | some _ => if (← take) = some [')'] then return else skipComment start fuel

/-- The item of a reference to a group by its name. -/
def namedReference (flags : List Flag) : Parse Item := do
  let name ← takeName ')' "group name"
  checkName name
  match (← get).names.lookup name with
  | none => failBack (.unknownGroupName name) (name.length + 1)
  | some group =>
    if !(← isClosed group) then failBack .openGroup (name.length + 1)
    checkLookbehind group
    return ⟨.other, .backref group (foldOf flags)⟩

/-- The group that a condition asks for, by name or by number. -/
def conditionGroup : Parse Nat := do
  let name ← takeName ')' "group name"
  let back := name.length + 1
  let group ←
    if isIdentifier name.toList then
      match (← get).names.lookup name with
      | none => failBack (.unknownGroupName name) back
      | some group => pure group
    else
      match readInt 10 name with
      | .ok (.ofNat 0) => failBack .badGroupNumber back
      | .ok (.ofNat n) => do
        if n ≥ 1073741823 then failBack (.noSuchGroup n) back
        let b ← get
        if (b.references.lookup n).isNone then
          set { b with references := (n, b.pos - back) :: b.references }
        pure n
      | _ => failBack (.badGroupName name) back
  checkLookbehind group
  return group

def openGroup (name : Option String) : Parse Nat := do
  let b ← get
  let group := b.widths.length
  match name with
  | none => set { b with widths := b.widths ++ [none] }
  | some n =>
    match b.names.lookup n with
    | some earlier => failBack (.duplicateGroupName n group earlier) (n.length + 1)
    | none => set { b with widths := b.widths ++ [none], names := (n, group) :: b.names }
  return group

def closeGroup (group : Nat) (body : Regex) : Parse Unit := do
  let width := body.width (← groupWidths)
  modify fun b => { b with widths := b.widths.set group (some width) }

/-- What kind of group was opened. -/
inductive GroupHead where
  | capture (name : Option String)
  | plain
  | flagged (on off : List Flag)
  | atomic
  | look (isAhead negated : Bool)
  | conditional
  /-- nothing but an item, or none, all taken already -/
  | done (item : Option Item)
  /-- flags for the whole pattern -/
  | wholeFlags

/-- Read what follows an opening parenthesis up to the body of the group. `start` is the
place of the parenthesis. -/
def groupHead (flags : List Flag) (start : Nat) : Parse GroupHead := do
  if !(← accept '?') then return .capture none
  match ← take with
  | none => failBack .patternEnds 0
  | some ['P'] =>
    if ← accept '<' then
      let name ← takeName '>' "group name"
      checkName name
      return .capture (some name)
    else if ← accept '=' then return .done (some (← namedReference flags))
    else
      match ← take with
      | none => failBack .patternEnds 0
      | some t => failBack (.unknownExtension (String.ofList ('P' :: t))) (t.length + 2)
  | some [':'] => return .plain
  | some ['#'] =>
    skipComment start ((← get).rest.length + 1)
    return .done none
  | some ['='] => return .look true false
  | some ['!'] => return .look true true
  | some ['<'] =>
    match ← take with
    | none => failBack .patternEnds 0
    | some ['='] => return .look false false
    | some ['!'] => return .look false true
    | some t => failBack (.unknownExtension (String.ofList ('<' :: t))) (t.length + 2)
  | some ['('] => return .conditional
  | some ['>'] => return .atomic
  | some t =>
    if (flagOf? t).isSome || t = ['-'] then
      match ← flagGroup t with
      | .whole => return .wholeFlags
      | .scoped on off => return .flagged on off
    else failBack (.unknownExtension (String.ofList t)) (t.length + 1)

/-- Take the parenthesis that closes a group opened at `start`. -/
def closeParenthesis (start : Nat) : Parse Unit := do
  if !(← accept ')') then failAt .unterminatedGroup start

/-- The pattern of items that were collected last first. -/
def itemsRegex (items : List Item) : Regex := Regex.seqAll (items.reverse.map (·.regex))

/-! ## Sequences and alternatives -/

mutual

/-- Alternatives up to a closing parenthesis or the end. `scope` holds the flags in force,
or is absent at the outermost level, where they are those of the whole pattern. -/
def alternatives : Nat → Option (List Flag) → List Regex → Parse Regex
  | 0, _, branches => return Regex.altAll branches.reverse
  | fuel + 1, scope, branches => do
    let items ← sequence fuel scope (scope.isNone && branches.isEmpty) []
    let branches := itemsRegex items :: branches
    if ← accept '|' then alternatives fuel scope branches
    else return Regex.altAll branches.reverse

/-- Items up to a bar, a closing parenthesis or the end, last first. `first` says that
flags for the whole pattern may come. -/
def sequence : Nat → Option (List Flag) → Bool → List Item → Parse (List Item)
  | 0, _, _, items => return items
  | fuel + 1, scope, first, items => do
    let flags := scope.getD (← get).flags
    match ← peek with
    | none => return items
    | some t =>
      if t = ['|'] || t = [')'] then return items
      let start ← tell
      let _ ← take
      match t with
      | [c] =>
        if flags.contains .verbose && (c = ' ' || (9 ≤ c.toNat && c.toNat ≤ 13)) then
          sequence fuel scope first items
        else if flags.contains .verbose && c = '#' then
          skipLine ((← get).rest.length + 1)
          sequence fuel scope first items
        else if c = '[' then
          let negated ← accept '^'
          let members ← setItems (flags.contains .ascii) start ((← get).rest.length + 1) []
          let item : Item := ⟨.other, .char (.ofItems members negated (foldOf flags))⟩
          sequence fuel scope first (item :: items)
        else if c = '*' || c = '+' || c = '?' || c = Char.ofNat 0x7B then
          match ← roundBounds c with
          | none => sequence fuel scope first (pointItem flags c.toNat :: items)
          | some (min, max) =>
            sequence fuel scope first (← repeatLast items min max start)
        else if c = '.' then sequence fuel scope first (dotItem flags :: items)
        else if c = '^' then
          let a := if flags.contains .multiline then Anchor.lineStart else .textStart
          sequence fuel scope first (⟨.anchor, .anchor a⟩ :: items)
        else if c = '$' then
          let a := if flags.contains .multiline then Anchor.lineEnd else .lastLineEnd
          sequence fuel scope first (⟨.anchor, .anchor a⟩ :: items)
        else if c = '(' then
          match ← groupHead flags start with
          | .done none => sequence fuel scope first items
          | .done (some item) => sequence fuel scope first (item :: items)
          | .wholeFlags =>
            if !first || !items.isEmpty then failAt .lateFlags start
            sequence fuel scope first items
          | head =>
            let regex ← group fuel flags start head
            sequence fuel scope first (⟨.other, regex⟩ :: items)
        else sequence fuel scope first (pointItem flags c.toNat :: items)
      | ['\\', c] =>
        let e ← escape (flags.contains .ascii) c
        sequence fuel scope first (e.toItem flags :: items)
      | _ => return items

/-- The body of a group opened at `start`, and the closing parenthesis. -/
def group : Nat → List Flag → Nat → GroupHead → Parse Regex
  | 0, _, _, _ => return .empty
  | fuel + 1, flags, start, head => do
    match head with
    | .capture name =>
      let number ← openGroup name
      let body ← alternatives fuel (some flags) []
      closeParenthesis start
      closeGroup number body
      return .capture number body
    | .flagged on off =>
      let body ← alternatives fuel (some (combineFlags flags on off)) []
      closeParenthesis start
      return body
    | .atomic =>
      let body ← alternatives fuel (some flags) []
      closeParenthesis start
      return .atomic body
    | .look true negated =>
      let body ← alternatives fuel (some flags) []
      closeParenthesis start
      return .ahead negated body
    | .look false negated =>
      let before := (← get).lookbehindFrom
      modify fun b => { b with lookbehindFrom := before.orElse fun _ => some b.widths.length }
      let body ← alternatives fuel (some flags) []
      modify fun b => { b with lookbehindFrom := before }
      closeParenthesis start
      let (least, most) := body.width (← groupWidths)
      return .behind negated least most body
    | .conditional =>
      let number ← conditionGroup
      let yes ← sequence fuel (some flags) false []
      let no ←
        if ← accept '|' then
          let no ← sequence fuel (some flags) false []
          if (← peek) = some ['|'] then failBack .tooManyBranches 0
          pure (itemsRegex no)
        else pure .empty
      closeParenthesis start
      return .conditional number (itemsRegex yes) no
    | _ =>
      let body ← alternatives fuel (some flags) []
      closeParenthesis start
      return body

end

/-! ## Whole patterns -/

/-- The first part of a pattern, from the outside in and from left to right, that cannot
be matched: a look behind of varying width, or any repetition under the template flag. -/
def firstFlaw (template : Bool) : Regex → Option Problem
  | .empty => none
  | .char _ => none
  | .anchor _ => none
  | .seq a b => (firstFlaw template a).orElse fun _ => firstFlaw template b
  | .alt a b => (firstFlaw template a).orElse fun _ => firstFlaw template b
  | .capture _ body => firstFlaw template body
  | .rounds greed _ _ body =>
    if template then
      some (.templateRepeat (match greed with
        | .greedy => "MAX_REPEAT"
        | .reluctant => "MIN_REPEAT"
        | .possessive => "POSSESSIVE_REPEAT"))
    else firstFlaw template body
  | .backref _ _ => none
  | .conditional _ yes no => (firstFlaw template yes).orElse fun _ => firstFlaw template no
  | .ahead _ body => firstFlaw template body
  | .behind _ least most body =>
    if least > Regex.roundLimit then some .lookbehindTooWide
    else if least ≠ most then some .lookbehindWidth
    else firstFlaw template body
  | .atomic body => firstFlaw template body

def wholePattern (source : List Char) : Parse Regex := do
  moveTo source 0
  let regex ← alternatives (4 * source.length + 8) none []
  let b ← get
  if b.flags.contains .ascii && b.flags.contains .unicode then throw .clashingFlags
  if !b.rest.isEmpty then failBack .unbalanced 0
  match b.references.reverse.find? fun r => b.widths.length ≤ r.1 with
  | some (group, pos) => failAt (.noSuchGroup group) pos
  | none => pure ()
  match firstFlaw (b.flags.contains .template) regex with
  | some problem => throw (.whole problem)
  | none => return regex

/-- The pattern written as the given text. -/
def Regex.parse (characters : CharacterNames) (source : List Char) : Except Fault Regex :=
  (wholePattern source).run' ⟨source, 0, [], [], [some (0, 0)], none, [], characters⟩

end Headline.Pattern
