import Headline.Arguments.Word
import Headline.Value.Basic

/-!
# Arguments

A command line names paths and sets options. All paths stand next to each other: operands
behind a later flag belong to no one. Words are looked at in order, and the first that asks for
help, or that is wrong by itself, ends the reading. What is only missing or superfluous is found
at the end. The options that are set here win over those of a file.
-/

namespace Headline

/-- What a command line says. -/
structure Arguments where
  paths : List String
  configFile : Option String
  words : Option (List String)
  allowFirst : Bool
  patterns : Option (List String)
  logLevel : Option String
deriving Repr, DecidableEq

namespace Arguments

/-- What a command line asks for instead of a check. -/
inductive Refusal where
  | help
  /-- the command line cannot be understood -/
  | fault (f : Fault)
deriving Repr, DecidableEq

/-! ## Reading words -/

/-- Where operands go. -/
inductive Place where
  /-- the first operand is still to come -/
  | before
  /-- operands are paths -/
  | within
  /-- a flag stood behind the paths -/
  | after
deriving Repr, DecidableEq

/-- What the words so far say. -/
structure Reading where
  place : Place
  arguments : Arguments
  /-- the words that no one takes -/
  extras : List String
deriving Repr, DecidableEq

namespace Reading

def start : Reading := ⟨.before, ⟨[], none, none, false, none, none⟩, []⟩

def operand (r : Reading) (text : String) : Reading :=
  match r.place with
  | .after => { r with extras := r.extras ++ [text] }
  | _ =>
    { r with
      place := .within
      arguments := { r.arguments with paths := r.arguments.paths ++ [text] } }

/-- Two hyphens count as a superfluous word behind the paths and otherwise as nothing. -/
def separator (r : Reading) : Reading :=
  match r.place with
  | .after => { r with extras := r.extras ++ ["--"] }
  | _ => r

/-- What is not an operand ends the paths. -/
def endPaths (r : Reading) : Reading :=
  match r.place with
  | .within => { r with place := .after }
  | _ => r

/-- What looks like a flag but is none. -/
def unknown (r : Reading) (text : String) : Reading :=
  let r := r.endPaths
  { r with extras := r.extras ++ [text] }

/-- A flag with its value, which is empty for flags that take none. -/
def set (r : Reading) (f : Flag) (value : String) : Reading :=
  let r := r.endPaths
  let a := r.arguments
  { r with
    arguments := match f with
      | .help => a
      | .config => { a with configFile := some value }
      | .lowerCaseWord => { a with words := some (a.words.getD [] ++ [value]) }
      | .allowFirst => { a with allowFirst := true }
      | .ignorePattern => { a with patterns := some (a.patterns.getD [] ++ [value]) }
      | .logLevel => { a with logLevel := some value } }

def words (r : Reading) : List Word → Except Refusal Reading
  | [] => .ok r
  | .operand text :: rest => words (r.operand text) rest
  | .separator :: rest => words r.separator rest
  | .unknown text :: rest => words (r.unknown text) rest
  | .flag f (some value) :: rest =>
    if f.takesValue then words (r.set f value) rest
    else .error (.fault (.valueIgnored f value))
  | .flag f none :: rest =>
    if f.takesValue then
      match rest with
      | .operand value :: rest => words (r.set f value) rest
      | _ => .error (.fault (.valueMissing f))
    else if f = .help then .error .help
    else words (r.set f "") rest

def finish (r : Reading) : Except Refusal Arguments :=
  if r.arguments.paths = [] then .error (.fault .pathsMissing)
  else if r.extras ≠ [] then .error (.fault (.unrecognized r.extras))
  else .ok r.arguments

end Reading

def parse (texts : List String) : Except Refusal Arguments := do
  let words ← (Word.ofTexts texts).mapError .fault
  (← Reading.start.words words).finish

def Refusal.exitCode : Refusal → Nat
  | help => 0
  | fault _ => 2

def Refusal.output : Refusal → String
  | help => Arguments.help
  | fault _ => ""

def Refusal.complaint : Refusal → String
  | help => ""
  | fault f => s!"{usage}heading-capitalization: error: {f.message}\n"

/-! ## Options -/

/-- Put the options that are set over the entries of a file. -/
def overlay (a : Arguments) (entries : List (Value × Value)) : List (Value × Value) :=
  let put (key : String) (value? : Option Value) (entries : List (Value × Value)) :=
    match value? with
    | some v => Value.putEntry entries (.str key) v
    | none => entries
  let texts (ts : List String) : Value := .list (ts.map .str)
  entries
    |> put "lowerCaseWords" (a.words.map texts)
    |> put "allowFirstWordLowerCase" (if a.allowFirst then some (.bool true) else none)
    |> put "ignorePattern" (a.patterns.map texts)

end Arguments

end Headline
