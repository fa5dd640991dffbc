import Headline.Text.Utf8
import Headline.Yaml.ScalarText
import Headline.Yaml.Token

/-!
# From text to tokens

Tokens are taken from the front of the text one by one. Two things reach further than one
token. Indentation: a block ends at the first token that stands left of it. And keys: a key
need not be marked as one, so whatever may be a key is remembered with its place among the
tokens, and when a colon follows it on the same line, the token that marks a key is put in
there.
-/

namespace Headline.Yaml

/-- Something that turns out to be a key if a colon follows. -/
structure PossibleKey where
  /-- the depth of flow collections around it -/
  depth : Nat
  /-- its place among the tokens -/
  slot : Nat
  /-- whether only a key may stand there -/
  isRequired : Bool
  place : Place
deriving Repr

/-- A text that is being divided into tokens. -/
structure Lexer where
  place : Place
  /-- the depth of flow collections -/
  depth : Nat
  /-- the column of the block under way, negative outside of blocks -/
  indent : Int
  /-- the columns of the blocks around it -/
  outer : List Int
  /-- whether a key may start here -/
  allowsKey : Bool
  keys : List PossibleKey
  tokens : Array Token
deriving Repr

/-- A step of the division. -/
abbrev Lex := StateT Lexer (Except Fault)

namespace Lex

/-- The text has a fault of form. -/
def malformed {α : Type} : Lex α := throw .malformed

def emit (t : Token) : Lex Unit := modify fun l => { l with tokens := l.tokens.push t }

def moveTo (p : Place) : Lex Unit := modify fun l => { l with place := p }

def allowKey (b : Bool) : Lex Unit := modify fun l => { l with allowsKey := b }

/-! ## Keys -/

/-- Forget the possible keys that are left on an earlier line or too far behind. -/
def dropStaleKeys : Lex Unit := do
  let l ← get
  let isStale (k : PossibleKey) : Bool :=
    k.place.line != l.place.line || l.place.index - k.place.index > 1024
  if l.keys.any fun k => isStale k && k.isRequired then malformed
  set { l with keys := l.keys.filter (!isStale ·) }

/-- Forget the possible key at the present depth. -/
def dropKey : Lex Unit := do
  let l ← get
  if l.keys.any fun k => k.depth == l.depth && k.isRequired then malformed
  set { l with keys := l.keys.filter (·.depth != l.depth) }

/-- Remember that the next token may be a key. -/
def noteKey : Lex Unit := do
  let l ← get
  if l.allowsKey then
    dropKey
    let k : PossibleKey :=
      ⟨l.depth, l.tokens.size, l.depth == 0 && l.indent == l.place.column, l.place⟩
    modify fun l => { l with keys := k :: l.keys }

/-! ## Indentation -/

/-- End the blocks that stand right of a column. -/
def unwind (column : Int) : Lex Unit :=
  modify fun l =>
    if l.depth > 0 then l
    else
      let rec go : List Int → Int → Array Token → List Int × Int × Array Token
        | [], indent, tokens => ([], indent, tokens)
        | i :: outer, indent, tokens =>
          if indent > column then go outer i (tokens.push .blockEnd)
          else (i :: outer, indent, tokens)
      let (outer, indent, tokens) := go l.outer l.indent l.tokens
      { l with outer := outer, indent := indent, tokens := tokens }

/-- Start a block at a column, if it is right of the block around it: the token is put in at a
place among the tokens. -/
def openBlock (column : Nat) (t : Token) (slot : Nat) : Lex Unit :=
  modify fun l =>
    if l.indent < (column : Int) then
      { l with
        outer := l.indent :: l.outer
        indent := column
        tokens := l.tokens.insertIdxIfInBounds slot t }
    else l

/-! ## Directives, anchors and tags -/

def isNameChar (c : Char) : Bool := c.isAlphanum || c == '-' || c == '_'

/-- A name that ends before one of the given characters or where a token may end. -/
def takeName (p : Place) (ends : Option Char → Bool) : Except Fault (String × Place) :=
  let (cs, p) := p.takeWhile isNameChar
  if cs.isEmpty || !ends (p.peek 0) then .error .malformed else .ok (String.ofList cs, p)

def takeNumber (p : Place) : Except Fault (Nat × Place) :=
  let (cs, p) := p.takeWhile Char.isDigit
  if cs.isEmpty then .error .malformed
  else .ok (cs.foldl (fun n c => n * 10 + (c.toNat - 0x30)) 0, p)

/-- The handle of a tag: one exclamation mark, or a name between two. -/
def takeHandle (p : Place) : Except Fault (String × Place) :=
  if p.peek 0 != some '!' then .error .malformed
  else if p.peek 1 == some ' ' then .ok ("!", p.next)
  else
    let (cs, q) := p.next.takeWhile isNameChar
    if q.peek 0 == some '!' then .ok (String.ofList ('!' :: cs ++ ['!']), q.next)
    else .error .malformed

/-- Whether a character may stand in the address that a tag is. -/
def isUriChar (c : Char) : Bool := isNameChar c || ";/?:@&=+$,.!~*'()[]".toList.contains c

/-- Bytes written as hexadecimal digits after per cent signs. -/
def takeEscapes (p : Place) : Nat → Except Fault (List UInt8 × Place)
  | 0 => .ok ([], p)
  | fuel + 1 =>
    if p.peek 0 == some '%' then
      match Place.hexValue? ((p.rest.drop 1).take 2), (p.rest.drop 2).isEmpty with
      | some n, false => do
        let (bs, p) ← takeEscapes (p.skip 3) fuel
        return (UInt8.ofNat n :: bs, p)
      | _, _ => .error .malformed
    else .ok ([], p)

/-- The address that a tag is. -/
def takeUri (p : Place) : Nat → Except Fault (List Char × Place)
  | 0 => .ok ([], p)
  | fuel + 1 =>
    match p.rest with
    | c :: _ =>
      if isUriChar c then do
        let (cs, p) ← takeUri p.next fuel
        return (c :: cs, p)
      else if c == '%' then do
        let (bytes, p) ← takeEscapes p p.rest.length
        match Text.Utf8.decode bytes with
        | .ok cs =>
          let (rest, p) ← takeUri p fuel
          return (cs ++ rest, p)
        | .error _ => throw .malformed
      else return ([], p)
    | [] => return ([], p)

/-- The address that a tag is, which is not empty. -/
def takeUriOne (p : Place) : Except Fault (String × Place) := do
  let (cs, q) ← takeUri p p.rest.length
  if q.index == p.index then throw .malformed
  return (String.ofList cs, q)

def takeDirective (p : Place) : Except Fault (Token × Place) := do
  let (name, p) ← takeName p.next endsToken
  let (token, p) ←
    if name == "YAML" then do
      let (major, p) ← takeNumber p.skipSpaces
      if p.peek 0 != some '.' then throw .malformed
      let (minor, p) ← takeNumber p.next
      if !endsToken (p.peek 0) then throw .malformed
      pure (Token.versionDirective major minor, p)
    else if name == "TAG" then do
      let (handle, p) ← takeHandle p.skipSpaces
      if p.peek 0 != some ' ' then throw .malformed
      let (tagPrefix, p) ← takeUriOne p.skipSpaces
      if !endsToken (p.peek 0) then throw .malformed
      pure (Token.tagDirective handle tagPrefix, p)
    else pure (Token.otherDirective, p.skipWhile (!isBreak ·))
  return (token, ← p.ignoredLine)

/-- Whether the name of an anchor or an alias may end before a character. -/
def endsAnchor (c? : Option Char) : Bool :=
  isSeparator c? || (c?.map fun c => "?:,]%@`".toList.contains c || c.toNat == 0x7D).getD false

def takeTag (p : Place) : Except Fault (Token × Place) := do
  let (tag, p) ←
    if p.peek 1 == some '<' then do
      let (suffix, p) ← takeUriOne (p.skip 2)
      if p.peek 0 != some '>' then throw .malformed
      pure (WrittenTag.mk none suffix, p.next)
    else if isSeparator (p.peek 1) then pure (WrittenTag.mk none "!", p.next)
    else do
      let word := (p.rest.drop 1).takeWhile fun c => !endsToken (some c)
      let (handle, p) ← if word.contains '!' then takeHandle p else pure ("!", p.next)
      let (suffix, p) ← takeUriOne p
      pure (WrittenTag.mk (some handle) suffix, p)
  if !endsToken (p.peek 0) then throw .malformed
  return (.tag tag, p)

/-! ## The next token -/

/-- Go to the next token, past spaces, comments and line breaks. -/
def toToken : Nat → Lex Unit
  | 0 => pure ()
  | fuel + 1 => do
    let l ← get
    let p := l.place.skipSpaces.skipComment
    moveTo p
    if p.atBreak then
      moveTo p.takeBreak.2
      if l.depth == 0 then allowKey true
      toToken fuel

/-- A token of `width` characters at which no key may start or end. -/
def fetchMark (t : Token) (width : Nat) : Lex Unit := do
  let l ← get
  moveTo (l.place.skip width)
  emit t

def fetchDocumentMark (t : Token) : Lex Unit := do
  unwind (-1)
  dropKey
  allowKey false
  fetchMark t 3

def fetchFlowStart (t : Token) : Lex Unit := do
  noteKey
  modify fun l => { l with depth := l.depth + 1 }
  allowKey true
  fetchMark t 1

def fetchFlowEnd (t : Token) : Lex Unit := do
  dropKey
  modify fun l => { l with depth := l.depth - 1 }
  allowKey false
  fetchMark t 1

def fetchBlockEntry : Lex Unit := do
  let l ← get
  if l.depth == 0 then
    if !l.allowsKey then malformed
    openBlock l.place.column .blockSequenceStart l.tokens.size
  allowKey true
  dropKey
  fetchMark .blockEntry 1

def fetchKey : Lex Unit := do
  let l ← get
  if l.depth == 0 then
    if !l.allowsKey then malformed
    openBlock l.place.column .blockMappingStart l.tokens.size
  allowKey (l.depth == 0)
  dropKey
  fetchMark .key 1

def fetchValue : Lex Unit := do
  let l ← get
  match l.keys.find? (·.depth == l.depth) with
  | some k =>
    set { l with
      keys := l.keys.filter (·.depth != l.depth)
      tokens := l.tokens.insertIdxIfInBounds k.slot .key }
    if l.depth == 0 then openBlock k.place.column .blockMappingStart k.slot
    allowKey false
  | none =>
    if l.depth == 0 then
      if !l.allowsKey then malformed
      openBlock l.place.column .blockMappingStart l.tokens.size
    allowKey (l.depth == 0)
    dropKey
  fetchMark .value 1

/-- A token that may be a key, as it is found at a place. -/
def fetchNode (find : Place → Except Fault (Token × Place)) : Lex Unit := do
  noteKey
  allowKey false
  let (t, p) ← find (← get).place
  moveTo p
  emit t

def fetchBlockScalar (isFolded : Bool) : Lex Unit := do
  allowKey true
  dropKey
  let l ← get
  let (cs, p) ← l.place.blockScalar isFolded l.indent
  moveTo p
  emit (.scalar (String.ofList cs) false)

/-- A plain scalar. Where it ends with its line, a key may follow. -/
def fetchPlain : Lex Unit := do
  noteKey
  let l ← get
  let (cs, ended, p) := l.place.plainScalar (l.depth > 0) (l.indent + 1).toNat
  allowKey ended
  moveTo p
  emit (.scalar (String.ofList cs) true)

/-- Whether a plain scalar may start with a character, given the one after it. -/
def startsPlain (inFlow : Bool) (c : Char) (next : Option Char) : Bool :=
  let isMark := "-?:,[]#&*!|>'\"%@`".toList.contains c || c.toNat == 0x7B || c.toNat == 0x7D
  (!isMark && !isSeparator (some c)) ||
    (!isSeparator next && (c == '-' || (!inFlow && (c == '?' || c == ':'))))

/-- Take the next token; the answer is whether there are more. -/
def step : Lex Bool := do
  toToken ((← get).place.rest.length + 1)
  dropStaleKeys
  unwind (← get).place.column
  let l ← get
  let p := l.place
  let inFlow := l.depth > 0
  match p.rest with
  | [] =>
    unwind (-1)
    dropKey
    emit .streamEnd
    return false
  | c :: _ =>
    let next := p.peek 1
    if c == '%' && p.column == 0 then
      unwind (-1)
      dropKey
      allowKey false
      let (t, p) ← takeDirective p
      moveTo p
      emit t
    else if c == '-' && p.column == 0 && p.atDocumentMark then fetchDocumentMark .documentStart
    else if c == '.' && p.column == 0 && p.atDocumentMark then fetchDocumentMark .documentEnd
    else if c == '[' then fetchFlowStart .flowSequenceStart
    else if c.toNat == 0x7B then fetchFlowStart .flowMappingStart
    else if c == ']' then fetchFlowEnd .flowSequenceEnd
    else if c.toNat == 0x7D then fetchFlowEnd .flowMappingEnd
    else if c == ',' then
      allowKey true
      dropKey
      fetchMark .flowEntry 1
    else if c == '-' && isSeparator next then fetchBlockEntry
    else if c == '?' && (inFlow || isSeparator next) then fetchKey
    else if c == ':' && (inFlow || isSeparator next) then fetchValue
    else if c == '*' then
      fetchNode fun p => (takeName p.next endsAnchor).map fun (n, p) => (.alias n, p)
    else if c == '&' then
      fetchNode fun p => (takeName p.next endsAnchor).map fun (n, p) => (.anchor n, p)
    else if c == '!' then fetchNode takeTag
    else if c == '|' && !inFlow then fetchBlockScalar false
    else if c == '>' && !inFlow then fetchBlockScalar true
    else if c == '\'' || c == '"' then
      fetchNode fun p => (p.quotedScalar (c == '"')).map fun (cs, p) =>
        (.scalar (String.ofList cs) false, p)
    else if startsPlain inFlow c next then fetchPlain
    else malformed
    return true

/-- Take all tokens; a fault is the last one. -/
def run : Nat → Lexer → Array Token
  | 0, l => l.tokens
  | fuel + 1, l =>
    match StateT.run step l with
    | .ok (true, l) => run fuel l
    | .ok (false, l) => l.tokens
    | .error f => l.tokens.push (.fault f)

end Lex

/-- The tokens of a text. A byte order mark at the front is skipped. -/
def tokensOf (cs : List Char) : List Token :=
  let p := Place.start cs
  let p := if p.peek 0 == some byteOrderMark then p.next else p
  (Lex.run (cs.length + 2) ⟨p, 0, -1, [], true, [], #[]⟩).toList

end Headline.Yaml
