import Headline.Document.Tree
import Headline.Log
import Headline.Text.Lines
import Headline.Value.Basic

/-!
# Reading documents

A document is read from its text into a tree of blocks. The source of each block is cut from
the lines of the text. Callers may hand in any value; nothing counts as the empty text, and
what is no text is refused.
-/

namespace Headline

open Text

/-- Why a document cannot be read. -/
inductive DocumentFault where
  /-- the content is no text -/
  | notText (v : Value)
  /-- the tokens have no tree -/
  | noTree (fault : TreeFault)
deriving Repr

def DocumentFault.message : DocumentFault → String
  | notText v => s!"Input data should be a string, not <class '{v.typeName}'>"
  | noTree fault => fault.message

namespace Document

/-- The lines from which the source of blocks is cut. -/
def sourceLines (text : String) : List String := (splitLines text.toList).map String.ofList

section Reading

variable (tokenize : Markdown.Tokenizer)

/-- The tree of a text. An empty file name counts as none. -/
def ofText (text file : String) : Except TreeFault Block :=
  Tree.ofTokens (sourceLines text) (if file.isEmpty then none else some file) (tokenize text)

def ofValue (content : Value) (file : String) : Except DocumentFault Block :=
  match content with
  | .str s => (ofText tokenize s file).mapError .noTree
  | .null => (ofText tokenize "" file).mapError .noTree
  | v => .error (.notText v)

/-- Read a document and log how it went. -/
def read (content : Value) (file : String) : Logged (Except DocumentFault Block) := do
  match ofValue tokenize content file with
  | .ok d =>
    Log.write .documents .debug
      s!"🔍 [PARSER-DEBUG] Parsed '{file}' into {d.children.length} top-level blocks"
    return .ok d
  | .error fault =>
    Log.write .documents .error s!"Markdown parsing failed for '{file}': {fault.message}"
    return .error fault

end Reading

end Document

end Headline
