import Headline.Text.Casing

/-!
# Settings

Two settings come from the environment: how much is logged, and a file of options that is used
unless the command line names another. Runs under test have settings of their own.
-/

namespace Headline

/-- What the environment says. -/
structure Environment where
  logLevel : Option String
  optionsFile : Option String
deriving Repr, DecidableEq

/-- The settings of a run. -/
structure Settings where
  testing : Bool
  /-- the name of the level from which on entries are logged -/
  logLevel : String
  optionsFile : Option String
deriving Repr, DecidableEq

namespace Settings

def ofEnvironment (env : Environment) : Settings where
  testing := false
  logLevel := env.logLevel.getD "WARNING"
  optionsFile := env.optionsFile

def forTests : Settings := ⟨true, "DEBUG", none⟩

/-- The endings of document names. -/
def extensions : List String := ["markdown", "md"]

/-- What stands behind the last point of a name, if there is a point. -/
def extension? (name : String) : Option String :=
  if name.toList.contains '.' then
    some (String.ofList (name.toList.reverse.takeWhile (· != '.')).reverse)
  else none

/-- Whether a file in a folder is a document, by its name. -/
def isDocument (name : String) : Bool :=
  match extension? name with
  | some e => extensions.contains (Text.lower e)
  | none => false

end Settings

end Headline
