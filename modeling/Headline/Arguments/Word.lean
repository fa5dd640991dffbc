import Headline.Arguments.Flag
import Headline.Text.DecimalDigit
import Headline.Text.Quoted

/-!
# Words of the command line

Each word is a flag, perhaps with a value behind an equals sign, or an operand. A long flag may
be shortened as long as it stays clear which one is meant. What starts with a hyphen but is no
flag is still an operand if it looks like a negative number or holds a space. Behind two
hyphens there are operands only.
-/

namespace Headline

namespace Arguments

/-- Why a command line cannot be understood. -/
inductive Fault where
  /-- a shortened flag that may be one of several -/
  | ambiguous (text : String) (candidates : List Flag)
  | valueMissing (flag : Flag)
  /-- a flag with a value that it does not take -/
  | valueIgnored (flag : Flag) (value : String)
  | pathsMissing
  | unrecognized (words : List String)
deriving Repr, DecidableEq

def Fault.message : Fault → String
  | ambiguous text candidates =>
    let spellings := ", ".intercalate (candidates.map (·.spelling))
    s!"ambiguous option: {text} could match {spellings}"
  | valueMissing flag => s!"argument {flag.title}: expected one argument"
  | valueIgnored flag value =>
    s!"argument {flag.title}: ignored explicit argument {Text.quoted value}"
  | pathsMissing => "the following arguments are required: paths"
  | unrecognized words => "unrecognized arguments: " ++ " ".intercalate words

/-- A word of the command line. -/
inductive Word where
  | operand (text : String)
  /-- two hyphens, behind which all words are operands -/
  | separator
  /-- a flag with the value that is written in the same word -/
  | flag (f : Flag) (value? : Option String)
  /-- what looks like a flag but is none -/
  | unknown (text : String)
deriving Repr, DecidableEq

namespace Word

/-- A text up to the first equals sign, and what stands behind it. -/
def splitEquals (cs : List Char) : String × Option String :=
  let name := String.ofList (cs.takeWhile (· != '='))
  match cs.dropWhile (· != '=') with
  | [] => (name, none)
  | _ :: value => (name, some (String.ofList value))

/-- Whether a text reads like a negative number. A line feed at the end does not count. -/
def isNegativeNumber (cs : List Char) : Bool :=
  match cs with
  | '-' :: cs =>
    let cs := if cs.getLast? == some '\n' then cs.dropLast else cs
    let isNumber (ds : List Char) := !ds.isEmpty && ds.all Text.isDigit
    isNumber cs ||
      match cs.dropWhile Text.isDigit with
      | '.' :: fraction => isNumber fraction
      | _ => false
  | _ => false

/-- Whether what starts with a hyphen but is no flag is an operand. -/
def isOperandLike (cs : List Char) : Bool := isNegativeNumber cs || cs.contains ' '

/-- The meaning of a word that stands before any two hyphens. -/
def ofText (text : String) : Except Fault Word :=
  let cs := text.toList
  match cs with
  | '-' :: '-' :: _ =>
    let (name, given?) := splitEquals cs
    match Flag.ofSpelling? name with
    | some f => .ok (.flag f given?)
    | none =>
      match Flag.startingWith name with
      | [f] => .ok (.flag f given?)
      | [] => .ok (if isOperandLike cs then .operand text else .unknown text)
      | candidates => .error (.ambiguous text candidates)
  | '-' :: 'h' :: rest =>
    match rest with
    | [] => .ok (.flag .help none)
    | ['='] => .ok (.flag .help (some ""))
    | '=' :: value => .ok (.flag .help (value? value))
    | _ => .ok (.flag .help (value? rest))
  | '-' :: _ :: _ => .ok (if isOperandLike cs then .operand text else .unknown text)
  | _ => .ok (.operand text)
where
  /-- What follows the short flag for help, which may be repeated in one word. -/
  value? (cs : List Char) : Option String :=
    let rest := cs.dropWhile (· == 'h')
    if rest.isEmpty then none else some (String.ofList rest)

def ofTexts : List String → Except Fault (List Word)
  | [] => .ok []
  | "--" :: rest => .ok (.separator :: rest.map .operand)
  | text :: rest => do
    let w ← ofText text
    return w :: (← ofTexts rest)

end Word

end Arguments

end Headline
