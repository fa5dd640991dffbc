import Headline.Proofs.Check
import Headline.Proofs.RuleOptions
import Headline.Session

/-!
# What a series of requests leaves in a ledger

A session hands requests to checkers, and several checkers may hold one ledger. Seen from one
ledger, only the requests count that reach it, whoever they were addressed to: they form a
`Series`, in which each request starts from the ledger that the one before it left
(`run_series`). All that is said about runs is proved about series, by induction over them.

A request that does not write the ledger by hand meets titles under options of its own, and
settles those that are new (`Request.outcome_ledger`). The title is the key, the options are
not. So the options that count for a title are those of the request that met it first.
-/

namespace Headline

/-! ## One request -/

/-- The findings in an answer. -/
def Answer.found : Answer → List Finding
  | findings fs => fs
  | finding f => f.toList
  | _ => []

/-- The findings that a request came to; a fault comes without any. -/
def Session.Outcome.found (out : Session.Outcome) : List Finding :=
  match out.answer with
  | .ok a => a.found
  | .error _ => []

variable (basis : Basis)

namespace Request

/-- What a request comes to, without the log. -/
def result (l : Ledger) : Request → Except OptionFault (Answer × Ledger)
  | analyze given d =>
    (given.result basis).map fun o =>
      (.findings (Check.findings o l.titles d.headings.zipIdx),
        Check.settle o l (d.headings.map (Check.titleOf o)))
  | checkHeading o h index =>
    .ok (.finding (if Check.titleOf o h ∈ l.titles then none else Check.verdict o h index),
      Check.settle o l [Check.titleOf o h])
  | get title => .ok (.form (l.get? title), l)
  | set title form => .ok (.done, l.put title form)
  | contains title => .ok (.flag (l.contains title), l)
  | size => .ok (.count l.size, l)
  | clear => .ok (.done, l.clear)

theorem perform_yields (l : Ledger) (r : Request) :
    (r.perform basis l).run.Yields (r.result basis l) := by
  cases r with
  | analyze given d =>
      have hcheck : (Check.documentWith basis given d l).run.Yields
          ((given.result basis).map fun o => (Check.findings o l.titles d.headings.zipIdx,
            Check.settle o l (d.headings.map (Check.titleOf o)))) :=
        LoggedExcept.yields_bind (given.build_yields basis) fun o =>
          LoggedExcept.yields_lift (Check.document_yields o d l)
      cases hg : given.result basis with
      | error fault =>
          rw [hg] at hcheck
          simp only [result, hg]
          exact LoggedExcept.yields_bind_error hcheck
      | ok o =>
          rw [hg] at hcheck
          simp only [result, hg]
          exact LoggedExcept.yields_bind_ok hcheck (LoggedExcept.yields_pure _)
  | checkHeading o h index =>
      exact LoggedExcept.yields_bind_ok
        (LoggedExcept.yields_lift (Check.heading_yields o h index l)) (LoggedExcept.yields_pure _)
  | get title => exact LoggedExcept.yields_pure _
  | set title form => exact LoggedExcept.yields_pure _
  | contains title => exact LoggedExcept.yields_pure _
  | size => exact LoggedExcept.yields_pure _
  | clear =>
      exact LoggedExcept.yields_bind_ok (LoggedExcept.yields_lift (Logged.yields_write _ _ _))
        (LoggedExcept.yields_pure _)

/-- What a request to the ledger of a number comes to. After a fault the ledger is as before. -/
def outcome (number : Nat) (l : Ledger) (r : Request) : Session.Outcome :=
  match r.result basis l with
  | .ok (answer, l') => ⟨number, .ok answer, l'⟩
  | .error fault => ⟨number, .error fault, l⟩

@[simp] theorem outcome_number (number : Nat) (l : Ledger) (r : Request) :
    (r.outcome basis number l).number = number := by
  rw [outcome]
  split <;> rfl

/-- Whether a request writes the ledger by hand, past all checks. -/
def overrides : Request → Bool
  | set _ _ => true
  | clear => true
  | _ => false

/-- The options under which a request checks headings, if it does so and they have no fault. -/
def options? : Request → Option RuleOptions
  | analyze given _ => (given.result basis).toOption
  | checkHeading o _ _ => some o
  | _ => none

/-- The headings that a request hands over. -/
def headings : Request → List Block
  | analyze _ d => d.headings
  | checkHeading _ h _ => [h]
  | _ => []

/-- The titles that a request meets, in order. -/
def titles (r : Request) : List String :=
  match r.options? basis with
  | some o => r.headings.map (Check.titleOf o)
  | none => []

/-- The form that a request holds to be right for a title. -/
def form (r : Request) (t : String) : String :=
  match r.options? basis with
  | some o => Check.rightForm o t
  | none => t

variable {basis}

/-- A request with options for its headings goes through them. -/
theorem outcome_of_options {r : Request} {o : RuleOptions} (ho : r.options? basis = some o)
    (number : Nat) (l : Ledger) :
    (r.outcome basis number l).ledger = Check.settle o l (r.headings.map (Check.titleOf o))
      ∧ (r.outcome basis number l).found.map Finding.flagged =
        (firsts id l.titles (r.headings.map (Check.titleOf o))).filter fun t =>
          decide (Check.rightForm o t ≠ t) := by
  cases r with
  | analyze given d =>
      cases hg : given.result basis with
      | error fault => simp [options?, hg, Except.toOption] at ho
      | ok o' =>
          obtain rfl : o' = o := by simpa [options?, hg, Except.toOption] using ho
          have hflagged := Check.flagged_findings o' l.titles d.headings.zipIdx
          rw [Check.map_titleOf_zipIdx] at hflagged
          simp only [outcome, result, headings, hg, Except.map, true_and]
          exact hflagged
  | checkHeading o' h index =>
      obtain rfl : o' = o := Option.some.inj ho
      exact ⟨rfl, Check.flagged_verdict o' l.titles h index⟩
  | get | set | contains | size | clear => cases ho

/-- A request without options finds nothing, and leaves a ledger that it does not override. -/
theorem outcome_of_no_options {r : Request} (ho : r.options? basis = none) (number : Nat)
    (l : Ledger) :
    (r.overrides = false → (r.outcome basis number l).ledger = l)
      ∧ (r.outcome basis number l).found = [] := by
  cases r with
  | analyze given d =>
      cases hg : given.result basis with
      | error fault => simp [outcome, result, hg, Except.map, Session.Outcome.found]
      | ok o => simp [options?, hg, Except.toOption] at ho
  | checkHeading o h index => cases ho
  | get | contains | size => exact ⟨fun _ => rfl, rfl⟩
  | set | clear => exact ⟨nofun, rfl⟩

/-- Whatever a request that overrides nothing comes to, the ledger grows by the titles that are
new to it, in the form that this request holds to be right. -/
theorem outcome_entries {r : Request} (hr : r.overrides = false) (number : Nat) (l : Ledger) :
    (r.outcome basis number l).ledger.entries =
      l.entries ++ (firsts id l.titles (r.titles basis)).map fun t => (t, r.form basis t) := by
  cases ho : r.options? basis with
  | some o =>
      rw [(outcome_of_options ho number l).1, titles, ho]
      simp only [form, ho]
      rfl
  | none =>
      rw [(outcome_of_no_options ho number l).1 hr, titles, ho]
      exact (List.append_nil _).symm

/-- The flagged titles are those among the new ones that are not in that form. -/
theorem outcome_flagged (basis : Basis) (r : Request) (number : Nat) (l : Ledger) :
    (r.outcome basis number l).found.map Finding.flagged =
      (firsts id l.titles (r.titles basis)).filter fun t => decide (r.form basis t ≠ t) := by
  cases ho : r.options? basis with
  | some o =>
      rw [(outcome_of_options ho number l).2, titles, ho]
      simp only [form, ho]
  | none =>
      rw [(outcome_of_no_options ho number l).2, titles, ho]
      rfl

/-- A request that meets a title has options for it. -/
theorem options_of_mem_titles {r : Request} {t : String} (ht : t ∈ r.titles basis) :
    ∃ o, r.options? basis = some o ∧ r.form basis t = Check.rightForm o t := by
  cases ho : r.options? basis with
  | none =>
      rw [titles, ho] at ht
      cases ht
  | some o => exact ⟨o, rfl, by rw [form, ho]⟩

end Request

/-! ## Series of requests to one ledger -/

/-- Requests to the ledger of a number, each with what it came to, the first of them starting
from the first ledger and the last of them leaving the second. -/
inductive Series (number : Nat) : Ledger → List (Request × Session.Outcome) → Ledger → Prop where
  | nil (l : Ledger) : Series number l [] l
  | cons {l l' : Ledger} {xs : List (Request × Session.Outcome)} (r : Request)
      (rest : Series number (r.outcome basis number l).ledger xs l') :
      Series number l ((r, r.outcome basis number l) :: xs) l'

/-- An entry stands in the form that the first request to meet its title held to be right, and
that request flagged the title exactly if this form is another one. -/
def SettledIn (xs : List (Request × Session.Outcome)) (e : String × String) : Prop :=
  ∃ pre r out post o, xs = pre ++ (r, out) :: post ∧ (∀ y ∈ pre, e.1 ∉ y.1.titles basis)
    ∧ r.options? basis = some o ∧ e.1 ∈ r.titles basis ∧ e.2 = Check.rightForm o e.1
    ∧ ((∃ f ∈ out.found, f.flagged = e.1) ↔ e.2 ≠ e.1)

variable {basis}

/-- What the requests that come later settle stays settled by them if the first one does not
meet the title. -/
theorem SettledIn.cons {xs : List (Request × Session.Outcome)} {e : String × String}
    (h : SettledIn basis xs e) {x : Request × Session.Outcome} (hx : e.1 ∉ x.1.titles basis) :
    SettledIn basis (x :: xs) e := by
  obtain ⟨pre, r, out, post, o, rfl, hpre, hrest⟩ := h
  refine ⟨x :: pre, r, out, post, o, rfl, fun y hy => ?_, hrest⟩
  rcases List.mem_cons.mp hy with rfl | hy
  · exact hx
  · exact hpre y hy

/-- The new titles of the first request are settled by it. -/
theorem settledIn_head {r : Request} {number : Nat} {l : Ledger} {t : String}
    (ht : t ∈ firsts id l.titles (r.titles basis)) (xs : List (Request × Session.Outcome)) :
    SettledIn basis ((r, r.outcome basis number l) :: xs) (t, r.form basis t) := by
  have hmem : t ∈ r.titles basis := (firsts_sublist (r.titles basis)).mem ht
  obtain ⟨o, ho, hform⟩ := Request.options_of_mem_titles hmem
  refine ⟨[], r, _, xs, o, rfl, fun y hy => absurd hy List.not_mem_nil, ho, hmem, hform, ?_⟩
  have hflagged := congrArg (t ∈ ·) (Request.outcome_flagged basis r number l)
  simp only [List.mem_map, List.mem_filter, ht, true_and, decide_eq_true_eq] at hflagged
  rw [hflagged]

namespace Series

variable {number : Nat} {l l' : Ledger} {xs : List (Request × Session.Outcome)}

/-- The ledger of a step knows the titles of before and those that the step has met. -/
theorem mem_titles_outcome {r : Request} (hr : r.overrides = false) {t : String} :
    t ∈ (r.outcome basis number l).ledger.titles ↔ t ∈ l.titles ∨ t ∈ r.titles basis := by
  rw [Ledger.titles, Request.outcome_entries hr, List.map_append, List.map_map, List.mem_append]
  show t ∈ l.titles ∨ t ∈ (firsts id l.titles (r.titles basis)).map id ↔ _
  rw [List.map_id, mem_firsts_id]
  by_cases ht : t ∈ l.titles <;> simp [ht]

/-- The titles that are new to the rest of a series are new to it after its first step. -/
theorem firsts_outcome {r : Request} (hr : r.overrides = false) (ts : List String) :
    firsts id l.titles (r.titles basis ++ ts) =
      firsts id l.titles (r.titles basis) ++
        firsts id (r.outcome basis number l).ledger.titles ts := by
  rw [firsts_append]
  congr 1
  exact firsts_congr ts fun t => by
    rw [mem_titles_outcome hr, List.map_id, List.mem_append]

/-- **What is added.** The entries that a series adds are those of the titles that come up in
it for the first time, each settled by the first request that meets it. -/
theorem exists_added (h : Series basis number l xs l') (hxs : ∀ x ∈ xs, x.1.overrides = false) :
    ∃ added, l'.entries = l.entries ++ added
      ∧ added.map (·.1) = firsts id l.titles (xs.flatMap (·.1.titles basis))
      ∧ ∀ e ∈ added, SettledIn basis xs e := by
  induction h with
  | nil l => exact ⟨[], by simp, rfl, fun e he => absurd he List.not_mem_nil⟩
  | @cons l l' xs r _ ih =>
      have hr : r.overrides = false := hxs _ (List.mem_cons_self ..)
      obtain ⟨added, hentries, hkeys, hsettled⟩ :=
        ih fun x hx => hxs x (List.mem_cons_of_mem _ hx)
      refine ⟨(firsts id l.titles (r.titles basis)).map (fun t => (t, r.form basis t)) ++ added,
        ?_, ?_, ?_⟩
      · rw [hentries, Request.outcome_entries hr, List.append_assoc]
      · rw [List.map_append, hkeys, List.map_map, List.flatMap_cons, firsts_outcome hr]
        congr 1
        exact List.map_id _
      · intro e he
        rcases List.mem_append.mp he with he | he
        · obtain ⟨t, ht, rfl⟩ := List.mem_map.mp he
          exact settledIn_head ht xs
        · refine (hsettled e he).cons fun hmet => ?_
          have hkey : e.1 ∈ firsts id (r.outcome basis number l).ledger.titles
              (xs.flatMap (·.1.titles basis)) := by
            rw [← hkeys]
            exact List.mem_map_of_mem he
          exact (mem_firsts_id.mp hkey).2 ((mem_titles_outcome hr).mpr (Or.inr hmet))

/-- The titles that are flagged are among those that come up for the first time. -/
theorem flagged_sublist (h : Series basis number l xs l') (hxs : ∀ x ∈ xs, x.1.overrides = false) :
    ((xs.flatMap (·.2.found)).map Finding.flagged).Sublist
      (firsts id l.titles (xs.flatMap (·.1.titles basis))) := by
  induction h with
  | nil l => exact List.Sublist.slnil
  | @cons l l' xs r _ ih =>
      have hr : r.overrides = false := hxs _ (List.mem_cons_self ..)
      rw [List.flatMap_cons, List.map_append, Request.outcome_flagged, List.flatMap_cons,
        firsts_outcome hr]
      exact List.Sublist.append List.filter_sublist
        (ih fun x hx => hxs x (List.mem_cons_of_mem _ hx))

/-- Every ledger of a series starts with every earlier one. -/
theorem pairwise_extends (h : Series basis number l xs l') (hxs : ∀ x ∈ xs, x.1.overrides = false) :
    (l :: (xs.map (·.2.ledger) ++ [l'])).Pairwise fun l₁ l₂ => l₁.entries <+: l₂.entries := by
  induction h with
  | nil l =>
      refine List.pairwise_cons.mpr ⟨fun m hm => ?_, List.pairwise_singleton _ _⟩
      rw [List.map_nil, List.nil_append] at hm
      obtain rfl := List.mem_singleton.mp hm
      exact List.prefix_refl _
  | @cons l l' xs r _ ih =>
      have hr : r.overrides = false := hxs _ (List.mem_cons_self ..)
      have hrest := ih fun x hx => hxs x (List.mem_cons_of_mem _ hx)
      have hstep : l.entries <+: (r.outcome basis number l).ledger.entries := by
        rw [Request.outcome_entries hr]
        exact List.prefix_append ..
      rw [List.map_cons, List.cons_append]
      refine List.pairwise_cons.mpr ⟨fun m hm => ?_, hrest⟩
      rcases List.mem_cons.mp hm with rfl | hm
      · exact hstep
      · exact hstep.trans ((List.pairwise_cons.mp hrest).1 m hm)

end Series

/-! ## Sessions, seen from one ledger -/

namespace Session

theorem enter_ledger (s : Session) (checker : String) (share : Option String) (m : Nat) :
    (s.enter checker share).1.ledger m = s.ledger m := by
  unfold enter
  split
  · rfl
  · split
    · rfl
    · show (s.ledgers ++ [.empty])[m]?.getD .empty = s.ledgers[m]?.getD .empty
      rcases Nat.lt_trichotomy m s.ledgers.length with hm | hm | hm
      · rw [List.getElem?_append_left hm]
      · simp [hm]
      · rw [List.getElem?_eq_none (by simp; omega), List.getElem?_eq_none (by omega)]

theorem enter_lt (s : Session) (checker : String) (share : Option String) :
    (s.enter checker share).2 < (s.enter checker share).1.ledgers.length := by
  unfold enter
  split
  next n _ => exact n.isLt
  next =>
    split
    next n _ => exact n.isLt
    next => simp [join, extend]

theorem replace_ledger (s : Session) {number : Nat} (hn : number < s.ledgers.length)
    (l : Ledger) (m : Nat) :
    (s.replace number l).ledger m = if m = number then l else s.ledger m := by
  show ((s.ledgers.set number l)[m]?).getD .empty = _
  by_cases hm : m = number
  · subst hm
    rw [if_pos rfl, List.getElem?_set_self hn]
    rfl
  · rw [if_neg hm, List.getElem?_set_ne fun h => hm h.symm]
    rfl

theorem replace_ledger_self (s : Session) {number : Nat} (hn : number < s.ledgers.length) :
    s.replace number (s.ledger number) = s := by
  have hledgers : s.ledgers.set number (s.ledger number) = s.ledgers := by
    have hself : s.ledger number = s.ledgers[number] := by
      rw [ledger, List.getElem?_eq_getElem hn, Option.getD_some]
    rw [hself, List.set_getElem_self]
  cases s
  simp only [replace] at hledgers ⊢
  simp only [hledgers]

variable (basis)

/-- A request reaches the ledger of its checker, and what it comes to is put in place there. -/
theorem ask_enters (s : Session) (checker : String) (share : Option String) (r : Request) :
    let number := (s.enter checker share).2
    let out := r.outcome basis number (s.ledger number)
    (s.ask basis checker share r).Yields
      (out, (s.enter checker share).1.replace number out.ledger) := by
  have hledger := enter_ledger s checker share
  have hlt := enter_lt s checker share
  unfold ask
  generalize s.enter checker share = entered at hledger hlt ⊢
  obtain ⟨s', number⟩ := entered
  have hperform := Request.perform_yields basis (s'.ledger number) r
  simp only [← hledger number]
  cases hres : r.result basis (s'.ledger number) with
  | error fault =>
      rw [hres] at hperform
      have hout : r.outcome basis number (s'.ledger number) =
          ⟨number, .error fault, s'.ledger number⟩ := by
        rw [Request.outcome, hres]
      rw [hout, replace_ledger_self s' hlt]
      exact hperform.bind (Logged.yields_pure _)
  | ok answered =>
      obtain ⟨answer, l⟩ := answered
      rw [hres] at hperform
      have hout : r.outcome basis number (s'.ledger number) = ⟨number, .ok answer, l⟩ := by
        rw [Request.outcome, hres]
      rw [hout]
      exact hperform.bind (Logged.yields_pure _)

/-- A request reaches one ledger, and the others stay as they are. -/
theorem ask_yields (s : Session) (checker : String) (share : Option String) (r : Request) :
    ∃ number t, (s.ask basis checker share r).Yields (r.outcome basis number (s.ledger number), t)
      ∧ ∀ m, t.ledger m =
        if m = number then (r.outcome basis number (s.ledger number)).ledger else s.ledger m := by
  refine ⟨_, _, s.ask_enters basis checker share r, fun m => ?_⟩
  rw [replace_ledger _ (s.enter_lt checker share), enter_ledger]

/-- The requests that reached the ledger of a number, with what they came to. -/
def exchanges (number : Nat) (steps : List Step) (outs : List Outcome) :
    List (Request × Outcome) :=
  (steps.zip outs).filterMap fun x =>
    if x.2.number = number then some (x.1.request, x.2) else none

/-- **From sessions to series.** Seen from one ledger, a session is a series of the requests
that reached it. -/
theorem run_yields (s : Session) : ∀ steps : List Step,
    ∃ outs t, (s.run basis steps).Yields (outs, t)
      ∧ ∀ number,
        Series basis number (s.ledger number) (exchanges number steps outs) (t.ledger number)
  | [] => ⟨[], s, Logged.yields_pure _, fun number => .nil _⟩
  | step :: steps => by
      obtain ⟨reached, s', hask, hledgers⟩ :=
        s.ask_yields basis step.checker step.share step.request
      obtain ⟨outs, t, hrun, hseries⟩ := run_yields s' steps
      refine ⟨_, t, hask.bind (hrun.bind (Logged.yields_pure _)), fun number => ?_⟩
      rw [exchanges, List.zip_cons_cons, List.filterMap_cons]
      simp only [Request.outcome_number]
      by_cases hn : number = reached
      · subst hn
        have hrest := hseries number
        rw [hledgers number, if_pos rfl] at hrest
        rw [if_pos rfl]
        exact .cons step.request hrest
      · have hrest := hseries number
        rw [hledgers number, if_neg hn] at hrest
        rw [if_neg fun h => hn h.symm]
        exact hrest

variable {basis}

/-- **Each title is settled once.** Let requests be handed to any checkers of a session, and
look at those that reach one ledger. As long as none of them overrides the ledger, they flag no
title twice and none that it held before; whatever it holds at one time it holds at every later
time, at the same place; and what they add are the titles that they meet for the first time,
each in the form that is right under the options of the request that met it first, which
flagged it exactly if that form is another one. -/
theorem run_settles_once {s t : Session} {steps : List Step} {outs : List Outcome}
    {log : List Log.Entry} (hrun : ((s.run basis steps).run log).1 = (outs, t)) (number : Nat)
    (hchecks : ∀ x ∈ exchanges number steps outs, x.1.overrides = false) :
    let xs := exchanges number steps outs
    ((xs.flatMap (·.2.found)).map Finding.flagged).Nodup
      ∧ (∀ x ∈ xs, ∀ f ∈ x.2.found, f.flagged ∉ (s.ledger number).titles)
      ∧ (s.ledger number :: (xs.map (·.2.ledger) ++ [t.ledger number])).Pairwise
          (fun l₁ l₂ => l₁.entries <+: l₂.entries)
      ∧ ∃ added, (t.ledger number).entries = (s.ledger number).entries ++ added
          ∧ added.map (·.1) = firsts id (s.ledger number).titles (xs.flatMap (·.1.titles basis))
          ∧ ∀ e ∈ added, SettledIn basis xs e := by
  intro xs
  obtain ⟨outs', t', hyields, hseries⟩ := s.run_yields basis steps
  obtain ⟨rfl, rfl⟩ := Prod.mk.injEq .. |>.mp ((hyields log).symm.trans hrun)
  have hsub := (hseries number).flagged_sublist hchecks
  have hnodup := nodup_firsts_id (s.ledger number).titles (xs.flatMap (·.1.titles basis))
  refine ⟨hnodup.sublist hsub, fun x hx f hf hknown => ?_,
    (hseries number).pairwise_extends hchecks, (hseries number).exists_added hchecks⟩
  have hflagged : f.flagged ∈ firsts id (s.ledger number).titles (xs.flatMap (·.1.titles basis)) :=
    hsub.mem (List.mem_map_of_mem (List.mem_flatMap.mpr ⟨x, hx, hf⟩))
  exact (mem_firsts_id.mp hflagged).2 hknown

/-- A heading that says `the end`. -/
def theEnd : Block := ⟨.heading, "the end", "# the end", 1, 1, none, [Block.textSpan 1 "the end"]⟩

/-- One heading, handed to two checkers that share a ledger: first under options by which `end`
stays lower case, then with a value that gives no options, then under the default options. -/
def sharing : List Step :=
  [⟨"main", none, .checkHeading ⟨.ofWords defaultWords ["end"], false, []⟩ theEnd 0⟩,
    ⟨"second", some "main", .analyze (.raw (.int 1)) (.document none [theEnd])⟩,
    ⟨"second", some "main", .analyze (.raw .null) (.document none [theEnd])⟩]

/-- The first request settles the title for both checkers. -/
theorem run_settles_once_shared :
    (exchanges 0 sharing ((start.run .plain sharing).run []).1.1).map (·.1.titles .plain) =
        [["the end"], [], ["the end"]]
      ∧ (∀ x ∈ exchanges 0 sharing ((start.run .plain sharing).run []).1.1, x.1.overrides = false)
      ∧ (((start.run .plain sharing).run []).1.2.ledger 0).entries = [("the end", "The end")]
      ∧ SettledIn .plain (exchanges 0 sharing ((start.run .plain sharing).run []).1.1)
          ("the end", "The end") := by
  have hchecks : ∀ x ∈ exchanges 0 sharing ((start.run .plain sharing).run []).1.1,
      x.1.overrides = false := by
    decide +kernel
  have hentries : (((start.run .plain sharing).run []).1.2.ledger 0).entries =
      [("the end", "The end")] := by
    decide +kernel
  obtain ⟨-, -, -, added, hadded, -, hsettled⟩ :=
    run_settles_once (Prod.eta ((start.run .plain sharing).run []).1).symm 0 hchecks
  rw [hentries] at hadded
  have hnew : added = [("the end", "The end")] := hadded.symm
  refine ⟨by decide +kernel, hchecks, hentries, hsettled _ ?_⟩
  rw [hnew]
  exact List.mem_singleton_self _

end Session

end Headline
