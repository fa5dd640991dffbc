import Headline.Check

/-!
# Sessions

A session is a series of requests to named checkers. Each checker holds a ledger, and
several checkers may hold the same one. A checker comes into being when it is first named,
with a new ledger or with that of a checker that is there already. All that one request
leaves to the next stands in the ledgers. What options are built on stays the same throughout:
the file of default words has been read before.
-/

namespace Headline

/-! ## Requests to one checker -/

/-- What may be asked of a checker. -/
inductive Request where
  /-- check all headings of a document -/
  | analyze (options : GivenOptions) (document : Block)
  /-- check one heading under options that have been checked -/
  | checkHeading (options : RuleOptions) (heading : Block) (index : Int)
  /-- the recorded form of a title -/
  | get (title : String)
  /-- record a form -/
  | set (title form : String)
  /-- whether a title is recorded -/
  | contains (title : String)
  /-- how many titles are recorded -/
  | size
  /-- forget every title -/
  | clear
deriving Repr

/-- What a checker answers. -/
inductive Answer where
  | findings (found : List Finding)
  | finding (found : Option Finding)
  | form (recorded : Option String)
  | flag (b : Bool)
  | count (n : Nat)
  | done
deriving Repr

/-- Answer a request with the ledger of the checker. A failure leaves the ledger as it is. -/
def Request.perform (basis : Basis) (ledger : Ledger) :
    Request → LoggedExcept OptionFault (Answer × Ledger)
  | analyze options document => do
    let (found, ledger) ← Check.documentWith basis options document ledger
    return (.findings found, ledger)
  | checkHeading options heading index => do
    let (found, ledger) ← Check.heading options heading index ledger
    return (.finding found, ledger)
  | get title => return (.form (ledger.get? title), ledger)
  | set title form => return (.done, ledger.put title form)
  | contains title => return (.flag (ledger.contains title), ledger)
  | size => return (.count ledger.size, ledger)
  | clear => do
    Log.write .ledger .debug s!"Clearing title cache with {ledger.size} entries"
    return (.done, ledger.clear)

/-! ## Several checkers -/

/-- The checkers by name, each with the number of its ledger, and the ledgers. -/
structure Session where
  checkers : List (String × Nat)
  ledgers : List Ledger
  /-- the ledger of every checker is there -/
  numbered : ∀ c ∈ checkers, c.2 < ledgers.length
deriving Repr, DecidableEq

namespace Session

def start : Session := ⟨[], [], fun _ h => absurd h List.not_mem_nil⟩

def ledger (s : Session) (number : Nat) : Ledger := s.ledgers[number]?.getD .empty

/-- The number of the ledger that a checker holds. -/
def numberOf? (s : Session) (checker : String) : Option (Fin s.ledgers.length) :=
  (s.checkers.attach.find? (·.1.1 == checker)).map fun c => ⟨c.1.2, s.numbered c.1 c.2⟩

/-- Add a checker that holds the ledger of a number. -/
def join (s : Session) (checker : String) (number : Fin s.ledgers.length) : Session where
  checkers := s.checkers ++ [(checker, number.val)]
  ledgers := s.ledgers
  numbered := by
    intro c hc
    rcases List.mem_append.mp hc with hc | hc
    · exact s.numbered c hc
    · rw [List.mem_singleton.mp hc]
      exact number.isLt

def extend (s : Session) : Session where
  checkers := s.checkers
  ledgers := s.ledgers ++ [.empty]
  numbered := by
    intro c hc
    rw [List.length_append]
    exact Nat.lt_add_right _ (s.numbered c hc)

/-- The number of a checker's ledger. A checker that is not there yet is added, with the
ledger of the checker `share` if there is one, and otherwise with a new ledger. -/
def enter (s : Session) (checker : String) (share : Option String) : Session × Nat :=
  match s.numberOf? checker with
  | some n => (s, n)
  | none =>
    match share.bind s.numberOf? with
    | some n => (s.join checker n, n)
    | none => (s.extend.join checker ⟨s.ledgers.length, by simp [extend]⟩, s.ledgers.length)

/-- Put a ledger in place of the one of the same number. -/
def replace (s : Session) (number : Nat) (l : Ledger) : Session where
  checkers := s.checkers
  ledgers := s.ledgers.set number l
  numbered := by
    intro c hc
    rw [List.length_set]
    exact s.numbered c hc

/-- What one request comes to: the number of the ledger that it went to, the answer or the
fault, and that ledger after it. -/
structure Outcome where
  number : Nat
  answer : Except OptionFault Answer
  ledger : Ledger

/-- Hand a request to a checker. -/
def ask (basis : Basis) (s : Session) (checker : String) (share : Option String) (r : Request) :
    Logged (Outcome × Session) := do
  let (s, n) := s.enter checker share
  match ← (r.perform basis (s.ledger n)).run with
  | .ok (answer, l) => return (⟨n, .ok answer, l⟩, s.replace n l)
  | .error fault => return (⟨n, .error fault, s.ledger n⟩, s)

/-- A request to a named checker. If the checker is new, it shares the ledger of another one if
that is named and there. -/
structure Step where
  checker : String
  share : Option String
  request : Request
deriving Repr

/-- Hand over requests one after the other. -/
def run (basis : Basis) (s : Session) : List Step → Logged (List Outcome × Session)
  | [] => return ([], s)
  | step :: steps => do
    let (out, s) ← s.ask basis step.checker step.share step.request
    let (outs, s) ← s.run basis steps
    return (out :: outs, s)

end Session

end Headline
