import Headline.Arguments.Basic
import Headline.Batch
import Headline.Files.Documents
import Headline.Installation
import Headline.Log.Threshold
import Headline.OptionsFile
import Headline.Settings

/-!
# Runs of the program

A run reads its command line, opens the log, gathers the options and checks the files. The exit
code is 0 if all is well, 1 if a heading is wrong or a file cannot be checked, and 2 if the
command line or the options are wrong. Faults that were not provided for end the run without an
exit code of its own.
-/

namespace Headline

namespace CommandLine

/-- A fault that was not provided for. -/
inductive Breakdown where
  | threshold (fault : Log.ThresholdFault)
  | optionsFile (fault : OptionsFileFault)
  | options (fault : OptionFault)
deriving Repr

def Breakdown.message : Breakdown → String
  | threshold fault => fault.message
  | optionsFile fault => fault.message
  | options fault => fault.message

/-- How a run went. -/
structure Transcript where
  /-- the exit code, if there is one -/
  ending : Except Breakdown Nat
  output : String
  /-- what is written about the command line -/
  complaint : String
  log : List Log.Entry
deriving Repr

/-! ## Options -/

/-- Why there are no options. -/
inductive OptionsFault where
  | file (fault : OptionsFileFault)
  | options (fault : OptionFault)
deriving Repr

namespace OptionsFault

def message : OptionsFault → String
  | file fault => fault.message
  | options fault => fault.message

/-- Whether a fault is a mistake in the configuration. -/
def isConfiguration : OptionsFault → Bool
  | file fault => fault.isConfiguration
  | options fault => fault.isConfiguration

/-- The fault as one that was not provided for. -/
def breakdown : OptionsFault → Breakdown
  | file fault => .optionsFile fault
  | options fault => .options fault

end OptionsFault

/-- The file of options: the one of the command line, or else that of the settings. -/
def optionsFile? (a : Arguments) (settings : Settings) : Option String :=
  (a.configFile.filter (!·.isEmpty) <|> settings.optionsFile).filter (!·.isEmpty)

section Runs

variable (i : Installation) (a : Arguments) (settings : Settings) (files : Files)

/-- The entries of the file of options, if there is one. -/
def fileEntries : LoggedExcept OptionsFileFault (List (Value × Value)) :=
  match optionsFile? a settings with
  | some path => OptionsFile.read i.loader files path
  | none => return []

def options : LoggedExcept OptionsFault RuleOptions := do
  let entries ← adapt .file (fileEntries i a settings files)
  adapt .options (RuleOptions.build (i.basis files) (.map (a.overlay entries)))
where
  /-- The same computation with another kind of fault. -/
  adapt {ε α : Type} (f : ε → OptionsFault) (x : LoggedExcept ε α) : LoggedExcept OptionsFault α :=
    ExceptT.mk do return (← x.run).mapError f

/-! ## Runs -/

/-- Check the files of a command line under given options. -/
def check (o : RuleOptions) : Logged Batch.Tally := do
  let paths := files.documents Settings.isDocument a.paths
  let t ← Batch.checkFiles i.tokenize o files .start paths
  Log.write .commandLine .info
    s!"Checked {paths.length} files, {t.ledger.size} distinct headings, {t.found.length} errors"
  return t

/-- What follows once the log is open: the ending and the output. -/
def proceed : Logged (Except Breakdown Nat × String) := do
  match ← (options i a settings files).run with
  | .error fault =>
    if fault.isConfiguration then
      Log.write .commandLine .error s!"Configuration error: {fault.message}"
      return (.ok 2, "")
    else return (.error fault.breakdown, "")
  | .ok o =>
    let t ← check i a files o
    return (.ok t.exitCode, t.output)

end Runs

def run (i : Installation) (texts : List String) (settings : Settings) (files : Files) :
    Transcript :=
  match Arguments.parse texts with
  | .error refusal => ⟨.ok refusal.exitCode, refusal.output, refusal.complaint, []⟩
  | .ok a =>
    match Log.Setup.start.opened a.logLevel settings.logLevel with
    | (.error fault, _) => ⟨.error (.threshold fault), "", "", []⟩
    | (.ok (), setup) =>
      let ((ending, output), log) := (proceed i a settings files).run []
      ⟨ending, output, "", log.filter setup.threshold.admits⟩

end CommandLine

end Headline
