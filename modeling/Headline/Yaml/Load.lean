import Headline.Text.Printable
import Headline.Yaml.Node
import Headline.Yaml.Scalar

/-!
# Values of YAML documents

Each node has a value: scalars by their form or tag, sequences and mappings by their members. A
key that stands for merging brings in the entries of other mappings, behind which the mapping's
own entries come and over which they win. A node with a name has one value wherever it stands;
inside of itself it stands for what encloses it, unless it is one of the outermost nodes.

Values are made level by level, and the fault that counts is the first one on the outermost
level that has any.
-/

namespace Headline.Yaml

namespace Node

/-- The name of a node. -/
def name? : Node → Option String
  | scalar name _ _ _ => name
  | sequence name _ _ => name
  | mapping name _ _ => name
  | again _ => none

/-- The meaning of a node. -/
def meaning : Node → Meaning
  | scalar _ (some tag) _ _ => .ofTag tag
  | scalar _ none isOpen text => if isOpen then .ofForm text else .str
  | sequence _ tag _ => (tag.map Meaning.ofTag).getD .sequence
  | mapping _ tag _ => (tag.map Meaning.ofTag).getD .mapping
  | again _ => .other

mutual

/-- The nodes with names in a node. -/
def named : Node → List (String × Node)
  | n@(scalar ..) => (n.name?.map (·, n)).toList
  | n@(sequence _ _ items) => (n.name?.map (·, n)).toList ++ namedIn items
  | n@(mapping _ _ entries) => (n.name?.map (·, n)).toList ++ namedInEntries entries
  | again _ => []

def namedIn : List Node → List (String × Node)
  | [] => []
  | n :: ns => named n ++ namedIn ns

def namedInEntries : List (Node × Node) → List (String × Node)
  | [] => []
  | (k, v) :: es => named k ++ named v ++ namedInEntries es

end

end Node

/-! ## Making values -/

/-- What is known while values are made. -/
structure Maker where
  /-- the nodes with names -/
  nodes : List (String × Node)
  /-- the fault that counts so far, with its level -/
  fault : Option (Nat × Fault)

/-- A step in the making of values. -/
abbrev Make := StateM Maker

namespace Make

/-- Note a fault, unless one counts that is on the same or an outer level. -/
def report (level : Nat) (f : Fault) : Make Unit :=
  modify fun m =>
    match m.fault with
    | some (other, _) => if level < other then { m with fault := some (level, f) } else m
    | none => { m with fault := some (level, f) }

/-- A value that may fail; a failed one is noted and counts as nothing. -/
def orReport (level : Nat) (r : Except Fault Value) : Make Value := do
  match r with
  | .ok v => return v
  | .error f =>
    report level f
    return .null

/-- The node that stands behind a name. -/
def follow (n : Node) : Make Node := do
  match n with
  | .again name => return ((← get).nodes.lookup name).getD n
  | n => return n

/-- What nodes give one after the other, the last one first. -/
def gatherBack (look : Node → Make (Except Fault (List (Node × Node)))) :
    List Node → Make (Except Fault (List (Node × Node)))
  | [] => return .ok []
  | n :: ns => do
    match ← look n with
    | .error f => return .error f
    | .ok entries => return (← gatherBack look ns).map (· ++ entries)

/-- The entries that the value of a merging key brings in: those of a mapping, or of several.
Of several mappings, the earlier ones win, so they come last. -/
def broughtIn (look : Node → Make (Except Fault (List (Node × Node)))) (v : Node) :
    Make (Except Fault (List (Node × Node))) := do
  match ← follow v with
  | .sequence _ _ items => gatherBack (fun item => do look (← follow item)) items
  | n => look n

/-- The entries that the merging keys among entries bring in, in order. -/
def mergedIn (look : Node → Make (Except Fault (List (Node × Node)))) :
    List (Node × Node) → Make (Except Fault (List (Node × Node)))
  | [] => return .ok []
  | (k, v) :: es => do
    if k.meaning == .merge then
      match ← broughtIn look v with
      | .error f => return .error f
      | .ok merged => return (← mergedIn look es).map (merged ++ ·)
    else mergedIn look es

/-- The entries of a mapping with those that it merges in, in order. `active` are the names of
the mappings that are being looked through. -/
def mergedEntries : Nat → List String → Node → Make (Except Fault (List (Node × Node)))
  | 0, _, _ => return .ok []
  | fuel + 1, active, n => do
    match n with
    | .mapping name _ entries =>
      let own := entries.filter fun e => e.1.meaning != .merge
      if name.any active.contains then return .ok own
      return (← mergedIn (mergedEntries fuel (name.toList ++ active)) entries).map (· ++ own)
    | _ => return .error .malformed

/-! ## Scalars -/

/-- The text of a node that has to be a scalar. A mapping counts as the scalar that it has
under the key that stands for the mapping as a whole. -/
def scalarText? : Nat → Node → Make (Option String)
  | 0, _ => return none
  | fuel + 1, n => do
    match ← follow n with
    | .scalar _ _ _ text => return some text
    | .mapping _ _ entries =>
      match entries.find? fun e => e.1.meaning == .default with
      | some (_, v) => scalarText? fuel v
      | none => return none
    | _ => return none

/-- The value of a scalar of a given meaning, if that is a meaning of scalars. -/
def scalarValue? (text : String) : Meaning → Option (Except Fault Value)
  | .null => some (.ok .null)
  | .str => some (.ok (.str text))
  | .bool => some (boolValue text)
  | .int => some (intValue text)
  | .float => some (floatValue text)
  | .binary => some (binaryValue text)
  | .time => some (timeValue text)
  | _ => none

/-- The value of a node that has to be a scalar. A date or time is read from the text of the node
itself, which a mapping has none of even if it counts as a scalar. -/
def scalarValue (fuel level : Nat) (meaning : Meaning) (n : Node) : Make Value := do
  match ← scalarText? fuel n with
  | none => orReport level (.error .malformed)
  | some text =>
    if meaning == .time && n matches .mapping .. then orReport level (.error .timeOfMapping)
    else orReport level ((scalarValue? text meaning).getD (.error .malformed))

/-! ## Collections -/

/-- The name of a node, if it has one, with what the node is seen as from inside of it. -/
def opening (n : Node) : List (String × Value) :=
  n.name?.toList.map fun name => (name, .enclosing (n.meaning == .mapping))

/-- The key and value of a node that has to be a mapping of one entry. -/
def onlyEntry? : Node → Option (Node × Node)
  | .mapping _ _ [entry] => some entry
  | _ => none

section Members

variable (member : Node → Make Value) (fuel level : Nat)

/-- The members of a node that has to be a sequence. -/
def itemsOf (n : Node) : Make (List Node) := do
  match n with
  | .sequence _ _ items => return items
  | _ =>
    report level .malformed
    return []

/-- The key and the value of an entry. A key that stands for the mapping as a whole is a text. -/
def entryOf (e : Node × Node) : Make (Value × Value) := do
  let k ← if e.1.meaning == .default then scalarValue fuel level .str e.1 else member e.1
  if !k.isKey then report level .malformed
  return (k, ← member e.2)

/-- Whether two keys of a document are the same. What is no number at all is one and the same
thing wherever it is written. -/
def sameKey (a b : Value) : Bool := a.sameKey b || isUndefined a && isUndefined b
where
  isUndefined (v : Value) : Bool := v.number? matches some .undefined

/-- The entries of a node that has to be a mapping. -/
def entriesOf (n : Node) : Make (List (Value × Value)) := do
  match ← mergedEntries fuel [] n with
  | .error f =>
    report level f
    return []
  | .ok es =>
    let es ← es.mapM (entryOf member fuel level)
    return es.foldl (fun all e => Value.putEntryBy sameKey all e.1 e.2) []

/-- The pair that a mapping of one entry stands for. -/
def pairOf (item : Node) : Make Value := do
  match onlyEntry? (← follow item) with
  | some (k, v) => return .tuple [← member k, ← member v]
  | none => orReport level (.error .malformed)

end Members

/-- How many levels of a value are taken apart by those who use it: options are taken out of a
mapping, and texts out of these. What is taken out does not refer to where it comes from, so a
node on these levels that is met inside of itself is written out once more. -/
def levelsTakenApart : Nat := 2

/-- The value of a node. `around` are the names of the nodes around it, with what these are
seen as from inside. The members of a collection are one level further in. -/
def value : Nat → Nat → List (String × Value) → Node → Make Value
  | 0, level, _, _ => orReport level (.error .malformed)
  | fuel + 1, level, around, n => do
    let n ← follow n
    match n.name?.bind fun name => around.lookup name with
    | some v => return v
    | none =>
      let around := if level < levelsTakenApart then around else opening n ++ around
      let member := value fuel (level + 1) around
      match n.meaning with
      | .sequence => return .list (← (← itemsOf (level + 1) n).mapM member)
      | .orderedMap => return .list (← (← itemsOf (level + 1) n).mapM (pairOf member (level + 1)))
      | .pairs => return .list (← (← itemsOf (level + 1) n).mapM (pairOf member (level + 1)))
      | .mapping => return .map (← entriesOf member fuel (level + 1) n)
      | .set => return .set ((← entriesOf member fuel (level + 1) n).map (·.1))
      | meaning => scalarValue fuel level meaning n

end Make

/-! ## Texts -/

/-- Whether a character may stand in a text of YAML. -/
def isAllowed (c : Char) : Bool :=
  let n := c.toNat
  n == 0x09 || n == 0x0A || n == 0x0D || (0x20 ≤ n && n ≤ 0x7E) || n == 0x85 ||
  (0xA0 ≤ n && n ≤ 0xFFFD) || 0x10000 ≤ n

/-- The value of a tree of at most `size` collections. Each of them is met at most twice on the way
down to a scalar, which bounds the depth. -/
def Node.load (size : Nat) (root : Node) : Except Fault Value :=
  let (v, m) := (Make.value (3 * size + 2) 0 [] root).run ⟨root.named, none⟩
  match m.fault with
  | some (_, f) => .error f
  | none => .ok v

/-- The value of a text of YAML. A text without a document has no value. -/
def load (cs : List Char) : Except Fault Value := do
  if !cs.all isAllowed then throw .malformed
  let tokens := tokensOf cs
  match ← Node.ofTokens tokens with
  | some root => root.load tokens.length
  | none => return .null

end Headline.Yaml
