import Headline.Finding
import Headline.RuleOptions
import Headline.Title.Case
import Headline.Title.Ledger

/-!
# Checking headings

A heading is judged by its text without what the options ignore. A text that the ledger
knows is passed over in silence. Any other is entered there with its right form and is
found wrong if the two differ. So each text is judged at most once for each ledger.
-/

namespace Headline

namespace Check

/-- The text by which a heading is judged. -/
def titleOf (o : RuleOptions) (heading : Block) : String := o.strip heading.headingText

/-- The right form of a title. -/
def rightForm (o : RuleOptions) (title : String) : String :=
  caseTitle o.words o.allowFirst title

/-- The finding that a title should have another form. -/
def finding (heading : Block) (index : Int) (title right : String) : Finding where
  report :=
    { message := s!"Heading capitalization error. Expected: '{right}' found: '{title}'"
      suggestions := [right]
      sentence := title
      index := index
      severity := .low }
  heading := heading

def heading (o : RuleOptions) (h : Block) (index : Int) (ledger : Ledger) :
    Logged (Option Finding × Ledger) := do
  let title := titleOf o h
  if ledger.contains title then
    Log.write .headings .debug s!"Skipping cached heading '{title}' at line {h.line}"
    return (none, ledger)
  else
    let right := rightForm o title
    let ledger := ledger.put title right
    if right = title then return (none, ledger)
    else
      Log.write .headings .debug s!"Heading at line {h.line} should read '{right}'"
      return (some (finding h index title right), ledger)

/-- Check headings in order, the first of them having the given index. -/
def headings (o : RuleOptions) (index : Nat) (ledger : Ledger) :
    List Block → Logged (List Finding × Ledger)
  | [] => return ([], ledger)
  | h :: hs => do
    let (found, ledger) ← heading o h index ledger
    let (rest, ledger) ← headings o (index + 1) ledger hs
    return (found.toList ++ rest, ledger)

def document (o : RuleOptions) (d : Block) (ledger : Ledger) :
    Logged (List Finding × Ledger) :=
  headings o 0 ledger d.headings

/-- Check all headings of a document under options that may still have to be checked. -/
def documentWith (basis : Basis) (options : GivenOptions) (d : Block) (ledger : Ledger) :
    LoggedExcept OptionFault (List Finding × Ledger) := do
  let o ← options.build basis
  document o d ledger

end Check

end Headline
