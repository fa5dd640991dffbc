import Headline.Proofs.Session

/-!
# Checks that write the ledger in place

A check hands on the ledger from heading to heading, and one that fails hands on none. That says
nothing about a ledger which is written while the check goes on, and in which a failure leaves
behind whatever was written by then. `InPlace` is the check on such a ledger. It comes to the same
(`run_document`): a check that fails leaves nothing behind, since all that can fail comes before
the first heading, and nothing has to be undone.
-/

namespace Headline

/-- A computation that writes a ledger as it goes. A fault ends it, and what it has written by
then stays written. -/
abbrev Writing := ExceptT OptionFault (StateT Ledger Logged)

namespace InPlace

/-- A step that cannot fail: the ledger that it would hand on is written. -/
def writing {α : Type} (step : Ledger → Logged (α × Ledger)) : Writing α :=
  ExceptT.mk fun l => do
    let (a, after) ← step l
    return (.ok a, after)

def headings (o : RuleOptions) (index : Nat) : List Block → Writing (List Finding)
  | [] => return []
  | h :: hs => do
    let found ← writing (Check.heading o h index)
    let rest ← headings o (index + 1) hs
    return found.toList ++ rest

/-- Check all headings of a document, after the options. -/
def document (basis : Basis) (given : GivenOptions) (d : Block) : Writing (List Finding) := do
  let o ← (ExceptT.mk (StateT.lift (given.build basis).run) : Writing RuleOptions)
  headings o 0 d.headings

/-- How a check ends, and with which ledger, if it was handed one and hands on another or none. -/
def ending (l : Ledger) : Except OptionFault (List Finding × Ledger) →
    Except OptionFault (List Finding) × Ledger
  | .ok (found, after) => (.ok found, after)
  | .error fault => (.error fault, l)

/-- The loop over headings. The induction is on the headings, each of which starts from the ledger
that the one before has written. -/
theorem headings_eq (o : RuleOptions) (index : Nat) (hs : List Block) :
    headings o index hs = writing fun l => Check.headings o index l hs := by
  induction hs generalizing index with
  | nil => rfl
  | cons h hs ih =>
      rw [headings, ih]
      rfl

theorem run_document (basis : Basis) (given : GivenOptions) (d : Block) (l : Ledger) :
    (document basis given d).run.run l =
      (do return ending l (← (Check.documentWith basis given d l).run) : Logged _) := by
  have hheadings : ∀ o, headings o 0 d.headings = writing fun l => Check.document o d l :=
    fun o => headings_eq o 0 d.headings
  simp only [document, hheadings, Check.documentWith, ExceptT.run_bind, ExceptT.run_mk,
    StateT.run_bind, StateT.run_lift, bind_assoc, pure_bind]
  refine bind_congr fun built => ?_
  cases built with
  | error fault => rfl
  | ok o => rfl

/-- What a check in place comes to, without the log. -/
def outcome (basis : Basis) (given : GivenOptions) (d : Block) (l : Ledger) :
    Except OptionFault (List Finding) × Ledger :=
  match given.result basis with
  | .error fault => (.error fault, l)
  | .ok o =>
    (.ok (Check.findings o l.titles d.headings.zipIdx),
      Check.settle o l (d.headings.map (Check.titleOf o)))

theorem document_yields (basis : Basis) (given : GivenOptions) (d : Block) (l : Ledger) :
    ((document basis given d).run.run l).Yields (outcome basis given d l) := by
  have hgiven := given.build_yields basis
  rw [run_document, outcome]
  cases hresult : given.result basis with
  | error fault =>
      rw [hresult] at hgiven
      have hcheck : (Check.documentWith basis given d l).run.Yields (.error fault) :=
        LoggedExcept.yields_bind_error hgiven
      exact hcheck.bind (Logged.yields_pure _)
  | ok o =>
      rw [hresult] at hgiven
      have hcheck : (Check.documentWith basis given d l).run.Yields
          (.ok (Check.findings o l.titles d.headings.zipIdx,
            Check.settle o l (d.headings.map (Check.titleOf o)))) :=
        LoggedExcept.yields_bind_ok hgiven
          (LoggedExcept.yields_lift (Check.document_yields o d l))
      exact hcheck.bind (Logged.yields_pure _)

end InPlace

/-! ## All or nothing -/

namespace Session

/-- To ask a checker for the check of a document is to run it on the ledger of that checker. -/
theorem ask_analyze (basis : Basis) (s : Session) (checker : String) (share : Option String)
    (given : GivenOptions) (d : Block) (log : List Log.Entry) :
    let number := (s.enter checker share).2
    let done := ((InPlace.document basis given d).run.run (s.ledger number)).run log
    (s.ask basis checker share (.analyze given d)).run log =
      ((⟨number, done.1.1.map .findings, done.1.2⟩,
        (s.enter checker share).1.replace number done.1.2), done.2) := by
  have hledger := enter_ledger s checker share
  have hlt := enter_lt s checker share
  unfold ask
  generalize s.enter checker share = entered at hledger hlt ⊢
  obtain ⟨s', number⟩ := entered
  have hself := replace_ledger_self s' hlt
  rw [hledger number] at hself
  simp only [hledger number, InPlace.run_document, Request.perform, ExceptT.run_bind, bind_assoc,
    StateT.run_bind]
  generalize (Check.documentWith basis given d (s.ledger number)).run.run log = checked
  obtain ⟨checked, log'⟩ := checked
  cases checked with
  | error fault =>
      show (((⟨number, .error fault, s.ledger number⟩ : Outcome), s'), log') =
        ((⟨number, .error fault, s.ledger number⟩, s'.replace number (s.ledger number)), log')
      rw [hself]
  | ok checked => rfl

/-- **All or nothing.** The check of a document that a checker is asked for comes to what it comes
to on a ledger that is written in place. If the options have a fault, it ends with this fault, and
the ledger is as before. Otherwise it ends as under the options that are built, with the same
findings and the same ledger. And under built options it never fails, and at the end the ledger
knows the titles of before and those of all headings of the document. -/
theorem analyze_all_or_nothing (basis : Basis) (s : Session) (checker : String)
    (share : Option String) (raw : Value) (d : Block) (log : List Log.Entry) :
    let entered := (s.enter checker share).1
    let number := (s.enter checker share).2
    let l := s.ledger number
    let inPlace := fun given => (((InPlace.document basis given d).run.run l).run log).1
    (∀ given, ((s.ask basis checker share (.analyze given d)).run log).1 =
        (⟨number, (inPlace given).1.map .findings, (inPlace given).2⟩,
          entered.replace number (inPlace given).2))
      ∧ (match ((RuleOptions.build basis raw).run.run log).1 with
          | .error fault => inPlace (.raw raw) = (.error fault, l)
          | .ok o => inPlace (.raw raw) = inPlace (.built o))
      ∧ ∀ o, ∃ found after, inPlace (.built o) = (.ok found, after)
          ∧ l.entries <+: after.entries
          ∧ ∀ t, t ∈ after.titles ↔ t ∈ l.titles ∨ t ∈ d.headings.map (Check.titleOf o) := by
  intro entered number l inPlace
  have hyields : ∀ given, inPlace given = InPlace.outcome basis given d l := fun given =>
    InPlace.document_yields basis given d l log
  refine ⟨fun given => ?_, ?_, fun o => ?_⟩
  · exact congrArg Prod.fst (ask_analyze basis s checker share given d log)
  · rw [RuleOptions.build_yields basis raw log]
    cases hraw : RuleOptions.ofValue basis raw with
    | error fault =>
        have hgiven : (GivenOptions.raw raw).result basis = .error fault := hraw
        show inPlace (.raw raw) = (.error fault, l)
        rw [hyields, InPlace.outcome, hgiven]
    | ok o =>
        have hgiven : (GivenOptions.raw raw).result basis = .ok o := hraw
        show inPlace (.raw raw) = inPlace (.built o)
        rw [hyields, hyields, InPlace.outcome, hgiven]
        rfl
  · exact ⟨_, _, hyields _, List.prefix_append .., fun t => Check.mem_titles_settle⟩

end Session

end Headline
