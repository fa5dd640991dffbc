/-!
# The ledger of settled titles

During a run each distinct title is judged once. The ledger remembers the titles
judged so far together with their right form, in the order in which they were first
met. What it holds about a title does not say under which options it was judged.
-/

namespace Headline

/-- Titles with their right form, in order of first arrival. -/
structure Ledger where
  entries : List (String × String)
deriving Repr, DecidableEq

namespace Ledger

def empty : Ledger := ⟨[]⟩

def get? (l : Ledger) (title : String) : Option String := l.entries.lookup title

def contains (l : Ledger) (title : String) : Bool := l.entries.any (·.1 == title)

def size (l : Ledger) : Nat := l.entries.length

def clear (_ : Ledger) : Ledger := empty

/-- Replace the form of a recorded title, or add the title at the end. -/
def put (l : Ledger) (title form : String) : Ledger where
  entries :=
    if l.contains title then
      l.entries.map fun e => if e.1 == title then (title, form) else e
    else l.entries ++ [(title, form)]

end Ledger

end Headline
