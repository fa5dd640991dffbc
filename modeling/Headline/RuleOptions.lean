import Headline.Log
import Headline.Pattern.Basic
import Headline.Title.WordFile

/-!
# Options of the heading check

Options arrive as a mapping of arbitrary values: words to keep in lower case, whether these
may open a title in lower case, and patterns to be removed before the check. Each option
has two spellings, and of several entries for one option the last counts. Entries with
other keys are ignored with a warning. The default words and the names of characters come from
elsewhere. Everything is checked before anything is used, so built options never fail.
-/

namespace Headline

/-! ## Faults -/

/-- Why options cannot be used. -/
inductive OptionFault where
  /-- the options as a whole are no mapping -/
  | notMapping (v : Value)
  | wordsNotList
  /-- a word that is no text, as it is shown -/
  | wordNotText (shown : String)
  /-- the permission to open a title is neither true nor false -/
  | flagNotBoolean
  | patternsNotList (v : Value)
  /-- a pattern that is no text, as it is shown -/
  | patternNotText (shown : String)
  | badPattern (source : String) (fault : Pattern.Fault)
  /-- a value that should be shown in a warning or a fault cannot be -/
  | unshown (fault : Value.DisplayFault)
  /-- there are no default words -/
  | noDefaultWords (fault : WordFile.Fault)
deriving Repr

namespace OptionFault

/-- The wording of a fault. A fault that is no mistake in the configuration is reported without
naming the option. -/
def message : OptionFault → String
  | notMapping v => s!"Rule options must be a mapping, got {v.shortTypeName}"
  | wordsNotList => "lowerCaseWords must be a list of strings"
  | wordNotText shown =>
    s!"lowerCaseWords entries must be strings, got {shown}; " ++
      "quote words such as 'on', 'off', 'yes' and 'no' in YAML"
  | flagNotBoolean => "allowFirstWordLowerCase must be true or false"
  | patternsNotList v =>
    s!"ignorePattern must be a string or a list of strings, got {v.shortTypeName}"
  | patternNotText shown => s!"ignorePattern entries must be strings, got {shown}"
  | badPattern source fault =>
    if fault.isDefect then s!"Invalid ignorePattern {Text.quoted source}: {fault.message source}"
    else fault.message source
  | unshown fault => fault.message
  | noDefaultWords fault => fault.message

/-- Whether a fault is a mistake in the configuration, as opposed to a limit that was met while
the options were looked at, and to default words that are missing. -/
def isConfiguration : OptionFault → Bool
  | badPattern _ fault => fault.isDefect
  | unshown _ => false
  | noDefaultWords _ => false
  | _ => true

/-- The fault of a value that is no text: the one that `fault` makes of the value as it is shown. -/
def notText (fault : String → OptionFault) (v : Value) : OptionFault :=
  match v.literal with
  | .ok shown => fault shown
  | .error limit => unshown limit

end OptionFault

/-! ## Options -/

/-- Checked options. -/
structure RuleOptions where
  words : WordSet
  allowFirst : Bool
  patterns : List Pattern
deriving Repr, DecidableEq

namespace RuleOptions

/-- A text without what the patterns match. -/
def strip (o : RuleOptions) (text : String) : String := Pattern.stripAll o.patterns text

inductive Name where
  | words
  | allowFirst
  | patterns
deriving Repr, DecidableEq

/-- The option that a key stands for. -/
def Name.ofKey? : Value → Option Name
  | .str s =>
    [("lowerCaseWords", words), ("lower_case_words", words),
     ("allowFirstWordLowerCase", allowFirst), ("allow_first_word_lower_case", allowFirst),
     ("ignorePattern", patterns), ("ignore_pattern", patterns)].lookup s
  | _ => none

/-- The last value that is given for an option. -/
def given (entries : List (Value × Value)) (name : Name) : Option Value :=
  (entries.reverse.find? fun e => Name.ofKey? e.1 = some name).map (·.2)

/-- Warn of each key that stands for no option. -/
def warnUnknown : List (Value × Value) → LoggedExcept OptionFault Unit
  | [] => pure ()
  | (key, _) :: rest => do
    if (Name.ofKey? key).isNone then
      let shown ← LoggedExcept.ofResult (key.text.mapError .unshown)
      Log.write .options .warning s!"Ignoring unknown heading capitalization option '{shown}'"
    warnUnknown rest

/-! ## Checks -/

/-- The words in a list of values, which must all be texts. -/
def textsOf : List Value → Except OptionFault (List String)
  | [] => .ok []
  | .str s :: rest => (textsOf rest).map (s :: ·)
  | v :: _ => .error (.notText .wordNotText v)

/-- The words of a caller. Nothing, and all that counts as nothing, means no words. -/
def checkWords (v? : Option Value) : Except OptionFault (List String) :=
  match v? with
  | none => .ok []
  | some v =>
    if v.isEmptyLike then .ok []
    else match v with
      | .list vs => textsOf vs
      | .tuple vs => textsOf vs
      | .set vs => textsOf vs
      | _ => .error .wordsNotList

def checkFlag : Option Value → Except OptionFault Bool
  | none => .ok false
  | some .null => .ok false
  | some (.bool b) => .ok b
  | some _ => .error .flagNotBoolean

section Patterns

variable (characters : Pattern.CharacterNames)

def checkPattern : Value → Except OptionFault Pattern
  | .str s => (Pattern.compile characters s).mapError (.badPattern s)
  | v => .error (.notText .patternNotText v)

/-- The patterns of a caller: none, one text, or a list of texts, read in order up to the
first that fails. -/
def checkPatterns : Value → Except OptionFault (List Pattern)
  | .null => .ok []
  | .str s => if s.isEmpty then .ok [] else [Value.str s].mapM (checkPattern characters)
  | .list vs => vs.mapM (checkPattern characters)
  | .tuple vs => vs.mapM (checkPattern characters)
  | v => .error (.patternsNotList v)

end Patterns

/-- The entries of a mapping; no value at all is an empty one. -/
def entriesOf : Value → Except OptionFault (List (Value × Value))
  | .null => .ok []
  | .map entries => .ok entries
  | v => .error (.notMapping v)

end RuleOptions

/-! ## Building options -/

/-- What options are built on besides the values of a caller. -/
structure Basis where
  /-- the characters that patterns may give by name -/
  characters : Pattern.CharacterNames
  defaults : DefaultWords

/-- The default words, with what is logged when they are asked for. -/
def Basis.defaultWords (basis : Basis) : LoggedExcept OptionFault (List String) := do
  Log.append basis.defaults.log
  LoggedExcept.ofResult (basis.defaults.result.mapError .noDefaultWords)

namespace RuleOptions

/-- The options given by entries of known names. -/
def ofEntries (basis : Basis) (entries : List (Value × Value)) :
    LoggedExcept OptionFault RuleOptions := do
  let words ← LoggedExcept.ofResult (checkWords (given entries .words))
  let allowFirst ← LoggedExcept.ofResult (checkFlag (given entries .allowFirst))
  let defaults ← basis.defaultWords
  let patterns ← LoggedExcept.ofResult
    (checkPatterns basis.characters ((given entries .patterns).getD .null))
  return ⟨WordSet.ofWords defaults words, allowFirst, patterns⟩

def build (basis : Basis) (raw : Value) : LoggedExcept OptionFault RuleOptions := do
  let entries ← LoggedExcept.ofResult (entriesOf raw)
  warnUnknown entries
  ofEntries basis entries

end RuleOptions

/-- Options as a caller hands them in. -/
inductive GivenOptions where
  /-- values that are still to be checked -/
  | raw (v : Value)
  /-- options that have been checked -/
  | built (o : RuleOptions)
deriving Repr

instance : Coe Value GivenOptions := ⟨.raw⟩

/-- The options, after a check if there was none yet. -/
def GivenOptions.build (basis : Basis) : GivenOptions → LoggedExcept OptionFault RuleOptions
  | raw v => RuleOptions.build basis v
  | built o => return o

end Headline
