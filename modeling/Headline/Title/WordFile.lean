import Headline.Log
import Headline.Title.WordSet
import Headline.Value.Display
import Headline.Yaml.File

/-!
# The file of default words

The words that stay lower case in every title can be replaced by those of a file. The file is
read once; what it said, or that it said nothing, is remembered, while its words are looked at
whenever they are asked for. Whatever is wrong with the file or with its words is met with a
warning and the built-in words, as far as it was foreseen and the warning can be written.
-/

namespace Headline

/-- The file of default words, with its entries once it has been read. -/
structure WordFile where
  folder : String
  entries? : Option (List (Value × Value))
deriving Repr

namespace WordFile

/-- Why there are no default words. -/
inductive Fault where
  /-- the file has no value, which is not to be expected of any file -/
  | unreadable (path : String) (fault : Yaml.FileFault)
  /-- the words are no words and cannot be shown in the warning -/
  | unshown (fault : Value.DisplayFault)
deriving Repr

def Fault.message : Fault → String
  | unreadable path fault => fault.message path
  | unshown fault => fault.message

def ofFolder (folder : String) : WordFile := ⟨folder, none⟩

def path (w : WordFile) : String := Files.join w.folder "heading_capitalization.yaml"

def key : String := "default_lower_case_words"

/-- A file that has been read and gives these words. -/
def ofWords (folder : String) (words : List String) : WordFile :=
  ⟨folder, some [(.str key, .list (words.map .str))]⟩

/-- The entries of a value, if it is a mapping. What counts as nothing is an empty one. -/
def entriesOf? (v : Value) : Option (List (Value × Value)) :=
  if v.isEmptyLike then some []
  else match v with
    | .map entries => some entries
    | _ => none

/-- The entries that the file has now. -/
def readEntries (w : WordFile) (loader : Yaml.Loader) (files : Files) :
    LoggedExcept Fault (List (Value × Value)) := do
  if !files.contains w.path then
    Log.write .options .warning s!"{w.path} not found, using built-in defaults"
    return []
  match Yaml.readFile loader files w.path with
  | .ok v =>
    match entriesOf? v with
    | some entries => return entries
    | none =>
      Log.write .options .warning s!"{w.path} is not a mapping, using built-in defaults"
      return []
  | .error fault =>
    if fault.isExpected then
      Log.write .options .warning
        s!"Could not load heading_capitalization.yaml: {fault.message w.path}"
      return []
    else throw (.unreadable w.path fault)

def wordsOf (entries : List (Value × Value)) : LoggedExcept Fault (List String) := do
  let v := (Value.getStr? entries key).getD .null
  if v.isEmptyLike then return defaultWords
  let words? := match v with
    | .list vs => Value.texts? vs
    | _ => none
  match words? with
  | some words => return words
  | none =>
    let shown ← LoggedExcept.ofResult (v.literal.mapError .unshown)
    Log.write .options .warning
      s!"{key} must be a list of quoted strings, got {shown}; using built-in defaults"
    return defaultWords

/-- The default words, and the file as it is remembered from now on. -/
def words (w : WordFile) (loader : Yaml.Loader) (files : Files) :
    Logged (Except Fault (List String) × WordFile) := do
  let entries ← match w.entries? with
    | some entries => pure (.ok entries)
    | none => (w.readEntries loader files).run
  match entries with
  | .error fault => return (.error fault, w)
  | .ok entries => return (← (wordsOf entries).run, { w with entries? := some entries })

end WordFile

/-! ## Words that have been asked for -/

/-- What asking for the default words comes to, and what is logged on the way. -/
structure DefaultWords where
  result : Except WordFile.Fault (List String)
  log : List Log.Entry
deriving Repr

/-- The default words as the file has them. -/
def WordFile.asked (w : WordFile) (loader : Yaml.Loader) (files : Files) : DefaultWords :=
  let ((result, _), log) := (w.words loader files).run []
  ⟨result, log⟩

end Headline
