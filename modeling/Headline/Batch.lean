import Headline.Check
import Headline.Document.Reader
import Headline.Files.Tree
import Headline.Text.Utf8

/-!
# Checking many files

Files are checked in order with one ledger, so that a title that comes up in several files is
judged once. A file that cannot be opened, decoded or read as a document is counted and passed
over; it leaves the ledger as it is.
-/

namespace Headline

namespace Batch

/-- Why a file cannot be checked. -/
inductive Fault where
  | files (fault : Files.Fault)
  | bytes (fault : Text.Utf8.Fault)
  | document (fault : DocumentFault)
deriving Repr

def Fault.message (path : String) : Fault → String
  | files fault => fault.message path
  | bytes fault => fault.message
  | document fault => fault.message

/-- The text of a file. Every break between lines is read as a line feed. -/
def readText (files : Files) (path : String) : Except Fault String := do
  let bytes ← (files.read path).mapError .files
  let cs ← (Text.Utf8.decode bytes).mapError .bytes
  return String.ofList (Text.normalizeBreaks cs)

def readDocument (tokenize : Markdown.Tokenizer) (files : Files) (path : String) :
    LoggedExcept Fault Block := do
  let text ← LoggedExcept.ofResult (readText files path)
  ExceptT.mk do
    match ← Document.read tokenize (.str text) path with
    | .ok d => return .ok d
    | .error fault => return .error (.document fault)

/-- What has been found so far. -/
structure Tally where
  ledger : Ledger
  /-- the findings, each with the path of its file -/
  found : List (String × Finding)
  /-- how many files could not be checked -/
  failed : Nat
deriving Repr

def Tally.start : Tally := ⟨.empty, [], 0⟩

section Checking

variable (tokenize : Markdown.Tokenizer) (o : RuleOptions) (files : Files)

def checkFile (t : Tally) (path : String) : Logged Tally := do
  match ← (readDocument tokenize files path).run with
  | .ok d =>
    let (found, ledger) ← Check.document o d t.ledger
    return ⟨ledger, t.found ++ found.map (path, ·), t.failed⟩
  | .error fault =>
    Log.write .commandLine .error s!"Could not check {path}: {fault.message path}"
    return { t with failed := t.failed + 1 }

def checkFiles (t : Tally) : List String → Logged Tally
  | [] => return t
  | path :: paths => do
    let t ← checkFile tokenize o files t path
    checkFiles t paths

end Checking

def line (path : String) (f : Finding) : String :=
  s!"{path}:{f.line}: {f.report.message}\n"

namespace Tally

/-- The findings as lines of output. -/
def output (t : Tally) : String := String.join (t.found.map fun f => line f.1 f.2)

/-- The exit code: whether all is well. -/
def exitCode (t : Tally) : Nat := if t.found.isEmpty && t.failed = 0 then 0 else 1

end Tally

end Batch

end Headline
