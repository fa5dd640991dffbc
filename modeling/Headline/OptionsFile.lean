import Headline.Log
import Headline.Value.Display
import Headline.Value.Order
import Headline.Yaml.File

/-!
# Options files

A file of options holds one mapping, or nothing at all. Its entries are logged by their keys in
order, which needs keys that have an order and can be shown. The entries themselves are not
looked at here.
-/

namespace Headline

/-- Why a file gives no options. -/
inductive OptionsFileFault where
  /-- the file has no value -/
  | unreadable (path : String) (fault : Yaml.FileFault)
  /-- the value is no mapping -/
  | notMapping (path : String)
  /-- the keys have no order -/
  | unsortedKeys (fault : Value.OrderFault)
  /-- a key cannot be shown -/
  | unshownKeys (fault : Value.DisplayFault)
deriving Repr

namespace OptionsFileFault

def message : OptionsFileFault → String
  | unreadable path fault =>
    if fault.isExpected then s!"Could not load options file {path}: {fault.message path}"
    else fault.message path
  | notMapping path => s!"Options file {path} must contain a mapping"
  | unsortedKeys fault => fault.message
  | unshownKeys fault => fault.message

/-- Whether a fault is a mistake in the configuration, as opposed to one that was not provided
for. -/
def isConfiguration : OptionsFileFault → Bool
  | unreadable _ fault => fault.isExpected
  | notMapping _ => true
  | unsortedKeys _ => false
  | unshownKeys _ => false

end OptionsFileFault

namespace OptionsFile

/-- The entries of a value. -/
def entriesOf (path : String) : Value → Except OptionsFileFault (List (Value × Value))
  | .null => .ok []
  | .map entries => .ok entries
  | _ => .error (.notMapping path)

/-- The keys of entries in their order, as the log shows them. -/
def shownKeys (entries : List (Value × Value)) : Except OptionsFileFault String := do
  let keys ← (Value.sorted (entries.map (·.1))).mapError .unsortedKeys
  (Value.list keys).literal.mapError .unshownKeys

/-- The entries of the file at a path. -/
def read (loader : Yaml.Loader) (files : Files) (path : String) :
    LoggedExcept OptionsFileFault (List (Value × Value)) := do
  let v ← LoggedExcept.ofResult ((Yaml.readFile loader files path).mapError (.unreadable path))
  let entries ← LoggedExcept.ofResult (entriesOf path v)
  if v matches .null then return entries
  let keys ← LoggedExcept.ofResult (shownKeys entries)
  Log.write .options .debug s!"Loaded heading capitalization options from {path}: {keys}"
  return entries

end OptionsFile

end Headline
