import Headline.Files.Tree
import Headline.Text.Lines
import Headline.Text.Utf8
import Headline.Yaml.Load

/-!
# YAML files

A file is opened, and its bytes are loaded. Most of what can go wrong is to be expected of any
file: it is not there, or it is no YAML. Bytes that are no text, and scalars without the value
that they promise, are faults of another kind.

What uses such files takes any loader, so that nothing depends on how YAML is read. The loader
of this library (`loadBytes`) decodes all of the bytes before it looks at the text.
-/

namespace Headline.Yaml

/-- Why bytes have no value. -/
inductive LoadFault where
  | bytes (fault : Text.Utf8.Fault)
  | text (fault : Fault)
  /-- a fault that only other loaders have, which says itself whether it is to be expected -/
  | other (isExpected : Bool) (wording : String)
deriving Repr, DecidableEq

namespace LoadFault

def message : LoadFault → String
  | bytes fault => fault.message
  | text fault => fault.message
  | other _ wording => wording

/-- Whether a fault is one that is to be expected of any file. -/
def isExpected : LoadFault → Bool
  | bytes _ => false
  | text fault => fault == .malformed
  | other isExpected _ => isExpected

end LoadFault

/-- The value that the bytes of a file have, if they have one. Keys of mappings are scalars, since a
mapping with other keys has no value. -/
abbrev Loader := List UInt8 → Except LoadFault Value

/-- The value of bytes that are a text. -/
def loadBytes : Loader := fun bytes => do
  let cs ← (Text.Utf8.decodeStream bytes).mapError .bytes
  (load (Text.normalizeBreaks cs)).mapError .text

/-! ## Files -/

/-- Why a file has no value. -/
inductive FileFault where
  | files (fault : Files.Fault)
  | content (fault : LoadFault)
deriving Repr, DecidableEq

namespace FileFault

def message (path : String) : FileFault → String
  | files fault => fault.message path
  | content fault => fault.message

/-- Whether a fault is one that is to be expected of any file. -/
def isExpected : FileFault → Bool
  | files fault => fault.isSystem
  | content fault => fault.isExpected

end FileFault

/-- The value of the file at a path. -/
def readFile (loader : Loader) (files : Files) (path : String) : Except FileFault Value := do
  let bytes ← (files.read path).mapError .files
  (loader bytes).mapError .content

end Headline.Yaml
