/-!
# Log entries

Each part of the library writes its entries under its own name and at one of four
levels. Entries are kept in the order in which they were written, also those that led to
a failure: a failing computation has both a fault and a log.
-/

namespace Headline

namespace Log

/-- Who writes an entry. -/
inductive Source where
  | commandLine
  | findings
  | headings
  | options
  | ledger
  | documents
deriving Repr, DecidableEq

def Source.name : Source → String
  | commandLine => "main"
  | findings => "rules.base_rule"
  | headings => "rules.structure_and_format.heading_capitalization_rule"
  | options => "rules.structure_and_format.services.heading_config_service"
  | ledger => "rules.structure_and_format.title_cache"
  | documents => "structural_parsing.markdown.parser"

/-- How grave an entry is. -/
inductive Level where
  | debug
  | info
  | warning
  | error
deriving Repr, DecidableEq

def Level.name : Level → String
  | debug => "DEBUG"
  | info => "INFO"
  | warning => "WARNING"
  | error => "ERROR"

/-- The weight by which entries are kept or dropped. -/
def Level.weight : Level → Nat
  | debug => 10
  | info => 20
  | warning => 30
  | error => 40

structure Entry where
  source : Source
  level : Level
  message : String
deriving Repr, DecidableEq

def Entry.text (e : Entry) : String := s!"{e.source.name} - {e.level.name} - {e.message}"

end Log

/-- A computation that writes a log. -/
abbrev Logged := StateM (List Log.Entry)

/-- A computation that writes a log and may fail; the log of a failure is kept. -/
abbrev LoggedExcept (ε : Type) := ExceptT ε Logged

/-- Write entries at the end of the log. -/
def Log.append (entries : List Log.Entry) : Logged Unit := modify (· ++ entries)

/-- Write an entry at the end of the log. -/
def Log.write (source : Log.Source) (level : Log.Level) (message : String) : Logged Unit :=
  Log.append [⟨source, level, message⟩]

/-- A result that needs no log. -/
def LoggedExcept.ofResult {ε α : Type} (r : Except ε α) : LoggedExcept ε α := ExceptT.mk (pure r)

end Headline
