/-!
# Blocks

A document is a tree of blocks. A heading has its text below it as spans: runs of text
and of inline code, which are blocks too. The walk through a tree visits each block before
what is below it and never the root.
-/

namespace Headline

/-- What a block is. -/
inductive BlockKind where
  | document
  | heading
  | paragraph
  | blockquote
  | orderedList
  | unorderedList
  | listItem
  | codeBlock
  | text
  | inlineCode
  | table
  | horizontalRule
  | htmlBlock
deriving Repr, DecidableEq

namespace BlockKind

def all : List BlockKind :=
  [document, heading, paragraph, blockquote, orderedList, unorderedList, listItem, codeBlock, text,
   inlineCode, table, horizontalRule, htmlBlock]

def name : BlockKind → String
  | document => "document"
  | heading => "heading"
  | paragraph => "paragraph"
  | blockquote => "blockquote"
  | orderedList => "ordered_list"
  | unorderedList => "unordered_list"
  | listItem => "list_item"
  | codeBlock => "code_block"
  | text => "text"
  | inlineCode => "inline_code"
  | table => "table"
  | horizontalRule => "horizontal_rule"
  | htmlBlock => "html_block"

def ofName? (name : String) : Option BlockKind := all.find? (·.name == name)

end BlockKind

/-- A block, or a span of a heading. -/
structure Block where
  kind : BlockKind
  /-- the text that stands directly in the block -/
  content : String
  /-- the source of the block -/
  raw : String
  /-- the line of the document on which the block starts, counted from one -/
  line : Int
  /-- the depth of a heading, and 0 for other blocks -/
  level : Int
  /-- the file of a document, if it is known -/
  file : Option String
  children : List Block
deriving Repr

namespace Block

def document (file : Option String) (blocks : List Block) : Block :=
  ⟨.document, "", "", 1, 0, file, blocks⟩

instance : Inhabited Block := ⟨document none []⟩

def textSpan (line : Int) (content : String) : Block :=
  ⟨.text, content, content, line, 0, none, []⟩

/-- A span of code with the marks around it. -/
def codeSpan (line : Int) (mark content : String) : Block :=
  ⟨.inlineCode, content, mark ++ content ++ mark, line, 0, none, []⟩

/-! ## Walks -/

/-- Whether a walk that looks for a kind, if it looks for one, stops at a block. -/
def isOf (kind? : Option BlockKind) (b : Block) : Bool :=
  match kind? with
  | none => true
  | some k => b.kind == k

mutual

/-- The blocks below a block in document order, all or those of one kind. -/
def walk (kind? : Option BlockKind) : Block → List Block
  | ⟨_, _, _, _, _, _, children⟩ => walkAll kind? children

/-- Several blocks, each with the blocks below it. -/
def walkAll (kind? : Option BlockKind) : List Block → List Block
  | [] => []
  | b :: bs =>
    if b.isOf kind? then b :: (walk kind? b ++ walkAll kind? bs)
    else walk kind? b ++ walkAll kind? bs

end

def headings (b : Block) : List Block := b.walk (some .heading)

/-! ## The text of a heading -/

/-- A span as it stands in the text of a heading: code is put between backticks. -/
def spanText (b : Block) : String :=
  if b.kind = .inlineCode then "`" ++ b.content ++ "`" else b.content

/-- The text of a heading, from its spans. -/
def headingText (heading : Block) : String := String.join (heading.children.map spanText)

end Block

end Headline
