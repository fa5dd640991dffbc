import Headline.Log
import Headline.Text.Casing
import Headline.Text.Quoted

/-!
# How much is logged

The log of a run is opened once, with the level from which on entries are kept. The level is
given by name, in any letter case; a name that means nothing stands for the usual level. Names
of levels share one list with the format of log lines and the table of styles of such formats,
and to ask for one of these two as a level is a fault.
-/

namespace Headline.Log

/-- The level from which on entries are kept. -/
inductive Threshold where
  | everything
  | debug
  | info
  | warning
  | error
  | critical
deriving Repr, DecidableEq

/-- Why a name cannot stand for a level. -/
inductive ThresholdFault where
  /-- the name is that of the format of log lines -/
  | lineFormat
  /-- the name is that of the table of styles -/
  | styleTable
deriving Repr, DecidableEq

/-- The wording of a fault shows what the name stands for. -/
def ThresholdFault.message : ThresholdFault → String
  | lineFormat => s!"Unknown level: {Text.quoted line}"
  | styleTable =>
    "Level not an integer or a valid string: \x7b" ++
      ", ".intercalate
        [style "%" "Percent" line, style "\x7b" "StrFormat" braced,
         style "$" "StringTemplate" dollars] ++ "\x7d"
where
  line := "%(levelname)s:%(name)s:%(message)s"
  braced := "\x7blevelname\x7d:\x7bname\x7d:\x7bmessage\x7d"
  dollars := "$\x7blevelname\x7d:$\x7bname\x7d:$\x7bmessage\x7d"
  style (mark kind format : String) : String :=
    s!"{Text.quoted mark}: (<class 'logging.{kind}Style'>, {Text.quoted format})"

namespace Threshold

/-- The least weight that is kept. -/
def weight : Threshold → Nat
  | everything => 0
  | debug => 10
  | info => 20
  | warning => 30
  | error => 40
  | critical => 50

def name : Threshold → String
  | everything => "NOTSET"
  | debug => "DEBUG"
  | info => "INFO"
  | warning => "WARNING"
  | error => "ERROR"
  | critical => "CRITICAL"

/-- The threshold of a name in capitals. -/
def ofName (name : String) : Except ThresholdFault Threshold :=
  match name with
  | "NOTSET" => .ok everything
  | "DEBUG" => .ok debug
  | "INFO" => .ok info
  | "WARNING" => .ok warning
  | "WARN" => .ok warning
  | "ERROR" => .ok error
  | "CRITICAL" => .ok critical
  | "FATAL" => .ok critical
  | "BASIC_FORMAT" => .error .lineFormat
  | "_STYLES" => .error .styleTable
  | _ => .ok warning

def admits (t : Threshold) (e : Entry) : Bool := t.weight ≤ e.level.weight

end Threshold

/-! ## Opening the log -/

/-- Where entries go, and from which level on they are kept. -/
structure Setup where
  /-- how many places the entries are written to -/
  outlets : Nat
  threshold : Threshold
deriving Repr, DecidableEq

namespace Setup

def start : Setup := ⟨0, .warning⟩

def isOpen (s : Setup) : Bool := s.outlets != 0

/-- The name that counts: the one asked for, or else that of the settings. -/
def nameFor (asked : Option String) (setting : String) : String :=
  let name := asked.getD ""
  Text.upper (if name.isEmpty then setting else name)

/-- Open the log. An open log stays as it is. The outlet is there before the level is looked at,
so that after a fault the log is open at the level it had. -/
def opened (s : Setup) (asked : Option String) (setting : String) :
    Except ThresholdFault Unit × Setup :=
  if s.isOpen then (.ok (), s)
  else
    let s := { s with outlets := s.outlets + 1 }
    match Threshold.ofName (nameFor asked setting) with
    | .ok t => (.ok (), { s with threshold := t })
    | .error fault => (.error fault, s)

end Setup

end Headline.Log
