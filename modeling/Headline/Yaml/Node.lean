import Headline.Yaml.Lexer

/-!
# Nodes of YAML

A document is a tree of scalars, sequences and mappings, each with its tag. A node may have a
name, under which it can stand again further on, even inside of itself. Only the first document
of a text is read, and there must not be a second one.
-/

namespace Headline.Yaml

inductive Node where
  /-- a scalar; `isOpen` says that its tag is to be found from its text -/
  | scalar (name : Option String) (tag : Option String) (isOpen : Bool) (text : String)
  | sequence (name : Option String) (tag : Option String) (items : List Node)
  | mapping (name : Option String) (tag : Option String) (entries : List (Node × Node))
  /-- a node with a name, again -/
  | again (name : String)
deriving Repr

namespace Node

/-- The scalar that stands where nothing is written. -/
def absent : Node := .scalar none none true ""

instance : Inhabited Node := ⟨absent⟩

/-! ## Reading tokens -/

/-- What is left to read, the handles of tags, and the names in use. -/
structure Reader where
  tokens : List Token
  handles : List (String × String)
  names : List String

/-- A step of the reading. -/
abbrev Read := StateT Reader (Except Fault)

namespace Read

def peek : Read Token := do return (← get).tokens.head?.getD .streamEnd

def pass : Read Unit := modify fun r => { r with tokens := r.tokens.drop 1 }

/-- The next token cannot stand here. -/
def unexpected {α : Type} : Read α := do
  match ← peek with
  | .fault f => throw f
  | _ => throw .malformed

/-- Pass the next token if it is the given one. -/
def accept (t : Token) : Read Bool := do
  if (← peek) == t then
    pass
    return true
  else return false

/-- Pass the given token, which has to come next. -/
def expect (t : Token) : Read Unit := do
  if !(← accept t) then unexpected

/-- Whether one of the given tokens comes next. -/
def comes (ts : List Token) : Read Bool := do return ts.contains (← peek)

/-- The tag that a written tag stands for. -/
def resolveTag (t : WrittenTag) : Read String := do
  match t.handle with
  | none => return t.suffix
  | some h =>
    match (← get).handles.lookup h with
    | some tagPrefix => return tagPrefix ++ t.suffix
    | none => throw .malformed

/-- The name and the tag before a node, in either order. -/
def properties : Read (Option String × Option String) := do
  match ← peek with
  | .anchor n =>
    pass
    match ← peek with
    | .tag t =>
      pass
      return (some n, some (← resolveTag t))
    | _ => return (some n, none)
  | .tag t =>
    pass
    match ← peek with
    | .anchor n =>
      pass
      return (some n, some (← resolveTag t))
    | _ => return (none, some (← resolveTag t))
  | _ => return (none, none)

/-- Take a name into use; it must be new. -/
def define : Option String → Read Unit
  | none => return ()
  | some n => do
    if (← get).names.contains n then throw .malformed
    modify fun r => { r with names := n :: r.names }

/-- Whether a tag leaves the choice to the reader. -/
def isOpenTag (tag : Option String) : Bool := tag.isNone || tag == some "!"

/-- A tag that says something. -/
def closedTag (tag : Option String) : Option String := if isOpenTag tag then none else tag

mutual

/-- A node. In a block, block collections may stand; `indentless` allows the entries of a
sequence without indentation. -/
def node : Nat → Bool → Bool → Read Node
  | 0, _, _ => unexpected
  | fuel + 1, inBlock, indentless => do
    match ← peek with
    | .alias n =>
      pass
      if (← get).names.contains n then return .again n else throw .malformed
    | _ =>
      let (name, tag) ← properties
      let closed := closedTag tag
      match ← peek with
      | .scalar text isPlain =>
        define name
        pass
        return .scalar name closed (tag == some "!" || (isPlain && tag.isNone)) text
      | .flowSequenceStart =>
        define name
        pass
        return .sequence name closed (← flowItems fuel true)
      | .flowMappingStart =>
        define name
        pass
        return .mapping name closed (← flowEntries fuel true)
      | t =>
        if indentless && t == .blockEntry then
          define name
          return .sequence name closed (← indentlessItems fuel)
        else if inBlock && t == .blockSequenceStart then
          define name
          pass
          return .sequence name closed (← blockItems fuel)
        else if inBlock && t == .blockMappingStart then
          define name
          pass
          return .mapping name closed (← blockEntries fuel)
        else if name.isSome || tag.isSome then
          define name
          return .scalar name closed (isOpenTag tag) ""
        else unexpected

/-- A node, or nothing before one of the given tokens. -/
def nodeOr : Nat → List Token → Bool → Bool → Read Node
  | 0, _, _, _ => unexpected
  | fuel + 1, ends, inBlock, indentless => do
    if ← comes ends then return absent else node fuel inBlock indentless

def blockItems : Nat → Read (List Node)
  | 0 => unexpected
  | fuel + 1 => do
    if ← accept .blockEntry then
      let item ← nodeOr fuel [.blockEntry, .blockEnd] true false
      return item :: (← blockItems fuel)
    else
      expect .blockEnd
      return []

/-- The entries of a sequence that stands in a mapping without indentation. -/
def indentlessItems : Nat → Read (List Node)
  | 0 => unexpected
  | fuel + 1 => do
    if ← accept .blockEntry then
      let item ← nodeOr fuel [.blockEntry, .key, .value, .blockEnd] true false
      return item :: (← indentlessItems fuel)
    else return []

def blockEntries : Nat → Read (List (Node × Node))
  | 0 => unexpected
  | fuel + 1 => do
    let ends := [Token.key, .value, .blockEnd]
    if ← accept .key then
      let k ← nodeOr fuel ends true true
      let v ← if ← accept .value then nodeOr fuel ends true true else pure absent
      return (k, v) :: (← blockEntries fuel)
    else
      expect .blockEnd
      return []

/-- The entries of a flow sequence. A key makes a mapping of one entry. -/
def flowItems : Nat → Bool → Read (List Node)
  | 0, _ => unexpected
  | fuel + 1, isFirst => do
    if ← accept .flowSequenceEnd then return []
    if !isFirst then expect .flowEntry
    if ← accept .key then
      let k ← nodeOr fuel [.value, .flowEntry, .flowSequenceEnd] false false
      let v ←
        if ← accept .value then nodeOr fuel [.flowEntry, .flowSequenceEnd] false false
        else pure absent
      return .mapping none none [(k, v)] :: (← flowItems fuel false)
    else if ← accept .flowSequenceEnd then return []
    else
      let item ← node fuel false false
      return item :: (← flowItems fuel false)

def flowEntries : Nat → Bool → Read (List (Node × Node))
  | 0, _ => unexpected
  | fuel + 1, isFirst => do
    if ← accept .flowMappingEnd then return []
    if !isFirst then expect .flowEntry
    if ← accept .key then
      let k ← nodeOr fuel [.value, .flowEntry, .flowMappingEnd] false false
      let v ←
        if ← accept .value then nodeOr fuel [.flowEntry, .flowMappingEnd] false false
        else pure absent
      return (k, v) :: (← flowEntries fuel false)
    else if ← accept .flowMappingEnd then return []
    else
      let k ← node fuel false false
      return (k, absent) :: (← flowEntries fuel false)

end

/-! ## Documents -/

/-- The handles of tags that need no directive. -/
def defaultHandles : List (String × String) := [("!", "!"), ("!!", "tag:yaml.org,2002:")]

/-- The directives before a document. -/
def directives : Nat → Bool → List (String × String) → Read (List (String × String))
  | 0, _, handles => return handles
  | fuel + 1, hasVersion, handles => do
    match ← peek with
    | .versionDirective major _ =>
      if hasVersion || major != 1 then throw .malformed
      pass
      directives fuel true handles
    | .tagDirective h tagPrefix =>
      if (handles.lookup h).isSome then throw .malformed
      pass
      directives fuel hasVersion ((h, tagPrefix) :: handles)
    | .otherDirective =>
      pass
      directives fuel hasVersion handles
    | _ => return handles

def passEnds : Nat → Read Unit
  | 0 => return ()
  | fuel + 1 => do
    if ← accept .documentEnd then passEnds fuel

/-- The document of a stream, if there is one. -/
def document (fuel : Nat) : Read (Option Node) := do
  let starts ← match ← peek with
    | .versionDirective .. => pure true
    | .tagDirective .. => pure true
    | .otherDirective => pure true
    | .documentStart => pure true
    | .streamEnd => pure true
    | _ => pure false
  if ← comes [.streamEnd] then return none
  let root ←
    if starts then do
      let handles ← directives fuel false []
      modify fun r => { r with handles := handles ++ defaultHandles }
      expect .documentStart
      match ← peek with
      | .versionDirective .. => pure absent
      | .tagDirective .. => pure absent
      | .otherDirective => pure absent
      | _ => nodeOr fuel [.documentStart, .documentEnd, .streamEnd] true false
    else do
      modify fun r => { r with handles := defaultHandles }
      node fuel true false
  passEnds fuel
  expect .streamEnd
  return some root

end Read

/-- The document that tokens make up, if there is one. -/
def ofTokens (tokens : List Token) : Except Fault (Option Node) :=
  (Read.document (4 * tokens.length + 8)).run' ⟨tokens, [], []⟩

end Node

end Headline.Yaml
