import Headline.Document.Spans
import Headline.Text.Numeral

/-!
# From tokens to the tree

The tokens of a document are taken in order. Some openings become blocks, and what follows
belongs to the innermost such block; other openings (rows and cells of tables) are only
counted, so that their closings can be told from those of blocks. Tokens that stand for
themselves become blocks without children or give their text to the block around them.

Closings may outnumber openings. The one that closes the document itself does no harm
yet. After it, openings are still counted, but there is no block left to hold anything:
the next token that needs one is a fault, and so is a closing that finds nothing open.
-/

namespace Headline

open Text

/-- Why tokens have no tree. -/
inductive TreeFault where
  /-- the depth of a heading cannot be read from its tag -/
  | badLevel (fault : NumeralFault)
  /-- a block is needed, but the document was closed -/
  | rootLost
  | nothingOpen
deriving Repr, DecidableEq

def TreeFault.message : TreeFault → String
  | badLevel fault => fault.message
  | rootLost => "Markdown block stack lost its document root"
  | nothingOpen => "pop from empty list"

namespace Tree

/-! ## Tokens that matter -/

/-- The kind of block that an opening becomes. -/
def containerKind? (name : String) : Option BlockKind :=
  [("heading_open", BlockKind.heading), ("paragraph_open", .paragraph),
   ("blockquote_open", .blockquote), ("bullet_list_open", .unorderedList),
   ("ordered_list_open", .orderedList), ("list_item_open", .listItem),
   ("table_open", .table)].lookup name

/-- The kind of block that a token without parts becomes. -/
def leafKind? (name : String) : Option BlockKind :=
  [("fence", BlockKind.codeBlock), ("code_block", .codeBlock), ("html_block", .htmlBlock),
   ("hr", .horizontalRule)].lookup name

/-! ## New blocks -/

/-- A position in a list of the given length, counted from the end if negative, and moved to
the nearest end if it lies outside. -/
def clampIndex (length : Nat) (i : Int) : Nat :=
  if i < 0 then (i + length).toNat else min i.toNat length

def slice {α : Type} (xs : List α) (first last : Int) : List α :=
  let i := clampIndex xs.length first
  (xs.take (clampIndex xs.length last)).drop i

/-- The block that a token starts, without content. -/
def newBlock (lines : List String) (kind : BlockKind) (t : Token) : Except TreeFault Block := do
  let (first, last) := t.span.getD (0, 0)
  let level ←
    if kind = .heading then
      match readInt 10 (String.ofList (t.tag.toList.drop 1)) with
      | .ok n => pure n
      | .error e => throw (.badLevel e)
    else pure 0
  return ⟨kind, "", "\n".intercalate (slice lines first last), first + 1, level, none, []⟩

/-! ## Open blocks -/

/-- An open block, with the number of openings in it that are only counted. -/
structure Frame where
  /-- the block, its children in reverse order -/
  block : Block
  counted : Nat
deriving Repr

/-- A block with its children in the opposite order. -/
def turned (b : Block) : Block := { b with children := b.children.reverse }

def Frame.add (f : Frame) (child : Block) : Frame :=
  { f with block := { f.block with children := child :: f.block.children } }

/-- Give the text of an inline token to a block. A heading takes its spans in place of all
children; another block appends the text to what it has. -/
def Frame.addInline (f : Frame) (t : Token) : Frame :=
  let b := f.block
  if b.kind = .heading then
    let spans := Block.spans b.line t.children
    { f with block := { b with
        children := spans.reverse, content := String.join (spans.map (·.content)) } }
  else
    { f with block := { b with
        content := if b.content.isEmpty then t.content else b.content ++ " " ++ t.content } }

/-- What is open. -/
inductive State where
  /-- the innermost open block and those around it, the document last -/
  | within (frame : Frame) (outer : List Frame)
  /-- the finished document, with the number of openings counted since -/
  | lost (document : Block) (counted : Nat)
deriving Repr

/-- Finish the innermost block. -/
def State.leave (f : Frame) : List Frame → State
  | [] => .lost (turned f.block) 0
  | g :: outer => .within (g.add (turned f.block)) outer

def State.step (lines : List String) (t : Token) : State → Except TreeFault State
  | .within f outer =>
    if t.nesting = 1 then
      match containerKind? t.name with
      | none => .ok (.within { f with counted := f.counted + 1 } outer)
      | some kind => (newBlock lines kind t).map fun b => .within ⟨b, 0⟩ (f :: outer)
    else if t.nesting = -1 then
      match f.counted with
      | n + 1 => .ok (.within { f with counted := n } outer)
      | 0 => .ok (State.leave f outer)
    else if t.name == "inline" then .ok (.within (f.addInline t) outer)
    else match leafKind? t.name with
      | some kind =>
        (newBlock lines kind t).map fun b => .within (f.add { b with content := t.content }) outer
      | none => .ok (.within f outer)
  | .lost document counted =>
    if t.nesting = 1 then
      match containerKind? t.name with
      | none => .ok (.lost document (counted + 1))
      | some kind => (newBlock lines kind t).bind fun _ => .error .rootLost
    else if t.nesting = -1 then
      match counted with
      | n + 1 => .ok (.lost document n)
      | 0 => .error .nothingOpen
    else if t.name == "inline" then .error .rootLost
    else if (leafKind? t.name).isSome then .error .rootLost
    else .ok (.lost document counted)

def State.run (lines : List String) : List Token → State → Except TreeFault State
  | [], s => .ok s
  | t :: ts, s => (s.step lines t).bind (run lines ts)

def closeAll (f : Frame) : List Frame → Block
  | [] => turned f.block
  | g :: outer => closeAll (g.add (turned f.block)) outer

def State.document : State → Block
  | .within f outer => closeAll f outer
  | .lost document _ => document

/-- The tree of a run of tokens, its blocks shown with their lines of the source. -/
def ofTokens (lines : List String) (file : Option String) (tokens : List Token) :
    Except TreeFault Block :=
  ((State.within ⟨Block.document file [], 0⟩ []).run lines tokens).map State.document

end Tree

end Headline
