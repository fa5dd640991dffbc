import Headline.Document.Block
import Headline.Log
import Headline.Text.Numeral
import Headline.Value.Display

/-!
# Findings

A finding has a fixed form: a message, suggestions, the text in question with its place
among its kind, and a severity. The check of headings makes its findings directly. Other
callers hand in arbitrary values, which are turned into texts and numbers first.
-/

namespace Headline

open Text

/-- The name under which findings of the heading check are reported. -/
def ruleName : String := "heading_capitalization"

/-- How grave a finding is. -/
inductive Severity where
  | low
  | medium
  | high
deriving Repr, DecidableEq

namespace Severity

def name : Severity → String
  | low => "low"
  | medium => "medium"
  | high => "high"

def ofName? (name : String) : Option Severity := [low, medium, high].find? (·.name == name)

end Severity

/-- What every finding says. -/
structure Report where
  message : String
  suggestions : List String
  sentence : String
  /-- the place of the text among all that were looked at -/
  index : Int
  severity : Severity
deriving Repr, DecidableEq

/-- A finding about a heading. -/
structure Finding where
  report : Report
  heading : Block
deriving Repr

namespace Finding

def line (f : Finding) : Int := f.heading.line

def level (f : Finding) : Int := f.heading.level

/-- The text that is flagged, which is all of the text in question. -/
def flagged (f : Finding) : String := f.report.sentence

end Finding

/-! ## Reports from arbitrary values -/

/-- Why values make no report. -/
inductive ReportFault where
  /-- the suggestions cannot be gone through -/
  | notIterable (v : Value)
  /-- the index is of a type that has no number -/
  | notNumber (v : Value)
  /-- the index is a text that is no numeral -/
  | badNumeral (fault : NumeralFault)
  /-- the index is infinite -/
  | infiniteIndex
  /-- the index is no number at all -/
  | undefinedIndex
  /-- a value that should be shown cannot be -/
  | unshown (fault : Value.DisplayFault)
deriving Repr

def ReportFault.message : ReportFault → String
  | notIterable v => s!"'{v.typeName}' object is not iterable"
  | notNumber v =>
    s!"int() argument must be a string, a bytes-like object or a real number, not '{v.typeName}'"
  | badNumeral fault => fault.message
  | infiniteIndex => "cannot convert float infinity to integer"
  | undefinedIndex => "cannot convert float NaN to integer"
  | unshown fault => fault.message

namespace Report

/-- A value as plain text. -/
def textOf (v : Value) : Except ReportFault String := v.text.mapError .unshown

/-- The severity that a value names; medium, with a warning, if it names none. -/
def severityOf (v : Value) : LoggedExcept ReportFault Severity := do
  let named := match v with
    | .str s => Severity.ofName? s
    | _ => none
  match named with
  | some s => return s
  | none =>
    let shown ← LoggedExcept.ofResult (textOf v)
    Log.write .findings .warning
      s!"Unknown severity '{shown}' for rule {ruleName}, using 'medium'"
    return .medium

/-- The texts that a value holds when it is gone through: the characters of a text, the
members of a list, the keys of a mapping. -/
def textsOf : Value → Except ReportFault (List String)
  | .str s => .ok (s.toList.map fun c => String.ofList [c])
  | .bytes bs => .ok (bs.map fun b => toString b.toNat)
  | .list vs => vs.mapM textOf
  | .tuple vs => vs.mapM textOf
  | .set vs => vs.mapM textOf
  | .map entries => entries.mapM fun e => textOf e.1
  | v => .error (.notIterable v)

/-- A finite number without its fraction. -/
def truncate (x : Float) : Int :=
  let d := Value.Dyadic.ofFloat x
  Int.tdiv d.numerator (1 <<< d.shift : Nat)

/-- The whole number that a value stands for. -/
def indexOf : Value → Except ReportFault Int
  | .bool b => .ok (if b then 1 else 0)
  | .int n => .ok n
  | .float x =>
    if x.isNaN then .error .undefinedIndex
    else if x.isInf then .error .infiniteIndex
    else .ok (truncate x)
  | .str s => (readInt 10 s).mapError .badNumeral
  | v => .error (.notNumber v)

/-- A report from arbitrary values, which are gone through in this order: severity, message,
suggestions, sentence, index. -/
def ofValues (sentence index message suggestions severity : Value) :
    LoggedExcept ReportFault Report := do
  let severity ← severityOf severity
  let message ← LoggedExcept.ofResult (textOf message)
  let suggestions ← LoggedExcept.ofResult (textsOf suggestions)
  let sentence ← LoggedExcept.ofResult (textOf sentence)
  let index ← LoggedExcept.ofResult (indexOf index)
  return ⟨message, suggestions, sentence, index, severity⟩

/-- The report as a mapping. -/
def toValue (r : Report) : List (Value × Value) :=
  [(.str "type", .str ruleName), (.str "message", .str r.message),
   (.str "suggestions", .list (r.suggestions.map .str)), (.str "sentence", .str r.sentence),
   (.str "sentence_index", .int r.index), (.str "severity", .str r.severity.name)]

/-- The report as a mapping with further entries, which win over its own. -/
def withExtra (r : Report) (extra : List (Value × Value)) : List (Value × Value) :=
  extra.foldl (fun es e => Value.putEntry es e.1 e.2) r.toValue

end Report

end Headline
