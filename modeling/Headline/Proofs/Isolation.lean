import Headline.Proofs.Session

/-!
# What one ledger sees of a session

The checkers of a session meet in the ledgers that they share, and nowhere else. From one ledger
there is to be seen which answers the requests to it get, and what it holds after each of them.
Both can be worked out from the ledger at the start and from these requests alone (`served`,
`seen_eq_served`). So it makes no difference which requests go to other ledgers and when they do,
nor which checker hands on the requests to this one.

Which ledger a step reaches is settled by the names that it gives and by the checkers there are.
What the ledgers hold plays no part. The one thing that another step can change is the number of
a ledger that is made later (`Mirrors`).
-/

namespace Headline

/-! ## A ledger and the requests to it -/

/-- What is seen from a ledger: each answer, or the fault in place of one, with what the ledger
holds then, and what it holds at the end. -/
abbrev Sight := List (Except OptionFault Answer × Ledger) × Ledger

/-- What a request comes to, whatever the number of the ledger is. -/
def Request.reply (basis : Basis) (l : Ledger) (r : Request) : Except OptionFault Answer × Ledger :=
  match r.result basis l with
  | .ok (answer, after) => (.ok answer, after)
  | .error fault => (.error fault, l)

theorem Request.outcome_eq (basis : Basis) (number : Nat) (l : Ledger) (r : Request) :
    r.outcome basis number l = ⟨number, (r.reply basis l).1, (r.reply basis l).2⟩ := by
  unfold outcome reply
  cases r.result basis l with
  | ok answered => rfl
  | error fault => rfl

/-- What is seen from a ledger if requests are put to it one after the other. -/
def served (basis : Basis) (l : Ledger) : List Request → Sight
  | [] => ([], l)
  | r :: rs =>
    let later := served basis (r.reply basis l).2 rs
    (r.reply basis l :: later.1, later.2)

theorem served_append (basis : Basis) (l : Ledger) (rs qs : List Request) :
    served basis l (rs ++ qs) =
      let first := served basis l rs
      let later := served basis first.2 qs
      (first.1 ++ later.1, later.2) := by
  induction rs generalizing l with
  | nil => rfl
  | cons r rs ih =>
      simp only [List.cons_append, served]
      rw [ih]

@[simp] theorem length_served (basis : Basis) (l : Ledger) (rs : List Request) :
    (served basis l rs).1.length = rs.length := by
  induction rs generalizing l with
  | nil => rfl
  | cons r rs ih => simp only [served, List.length_cons, ih]

/-- Nothing of what a ledger held before shows after it was cleared. -/
theorem drop_served_clear (basis : Basis) (l : Ledger) (before after : List Request) :
    let sight := served basis l (before ++ .clear :: after)
    (sight.1.drop (before.length + 1), sight.2) = served basis .empty after := by
  intro sight
  have hsight : sight =
      ((served basis l before).1 ++ (.ok .done, .empty) :: (served basis .empty after).1,
        (served basis .empty after).2) := served_append basis l before (.clear :: after)
  have hlength : before.length + 1 = ((served basis l before).1 ++
      [((.ok .done, .empty) : Except OptionFault Answer × Ledger)]).length := by
    rw [List.length_append, length_served, List.length_singleton]
  rw [hsight, List.append_cons, hlength, List.drop_left]

theorem Series.sight_eq {basis : Basis} {number : Nat} {l l' : Ledger}
    {xs : List (Request × Session.Outcome)}
    (h : Series basis number l xs l') :
    (xs.map fun x => (x.2.answer, x.2.ledger), l') = served basis l (xs.map (·.1)) := by
  induction h with
  | nil l => rfl
  | @cons l l' xs r _ ih =>
      rw [Request.outcome_eq] at ih ⊢
      simp only [List.map_cons, served, ← ih]

namespace Session

/-! ## Where a step goes -/

/-- The number of the ledger that a checker holds, if the checker is there. -/
def held (s : Session) (checker : String) : Option Nat := (s.numberOf? checker).map Fin.val

theorem held_eq (s : Session) (checker : String) :
    s.held checker = (s.checkers.find? (·.1 == checker)).map (·.2) := by
  have hfind : (s.checkers.attach.map (·.1)).find? (·.1 == checker) =
      (s.checkers.attach.find? (·.1.1 == checker)).map (·.1) := List.find?_map
  rw [List.attach_map_subtype_val] at hfind
  rw [hfind, Option.map_map, held, numberOf?, Option.map_map]
  rfl

theorem lt_of_held {s : Session} {checker : String} {n : Nat} (h : s.held checker = some n) :
    n < s.ledgers.length := by
  obtain ⟨k, -, rfl⟩ := Option.map_eq_some_iff.mp h
  exact k.isLt

/-- A checker that is there is served from its ledger, a new one from the ledger of the checker
that it names if that one is there, and otherwise from a new ledger. -/
theorem enter_number (s : Session) (checker : String) (share : Option String) :
    (s.enter checker share).2 =
      ((s.held checker).or (share.bind s.held)).getD s.ledgers.length := by
  have hshare : share.bind s.held = (share.bind s.numberOf?).map Fin.val := by
    cases share <;> rfl
  rw [hshare, held]
  unfold enter
  cases s.numberOf? checker with
  | some n => rfl
  | none => cases share.bind s.numberOf? <;> rfl

theorem enter_le (s : Session) (checker : String) (share : Option String) :
    (s.enter checker share).2 ≤ s.ledgers.length := by
  rw [enter_number]
  cases h : (s.held checker).or (share.bind s.held) with
  | none => exact Nat.le_refl _
  | some n =>
      rcases Option.or_eq_some_iff.mp h with hown | ⟨-, hshare⟩
      · exact Nat.le_of_lt (lt_of_held hown)
      · obtain ⟨other, -, hother⟩ := Option.bind_eq_some_iff.mp hshare
        exact Nat.le_of_lt (lt_of_held hother)

theorem held_join (s : Session) (checker : String) (number : Fin s.ledgers.length) (x : String) :
    (s.join checker number).held x =
      (s.held x).or (if checker = x then some number.val else none) := by
  have hsingle : ([(checker, number.val)].find? (·.1 == x)).map (·.2) =
      if checker = x then some number.val else none := by
    by_cases hx : checker = x <;> simp [hx]
  rw [held_eq, join, List.find?_append, Option.map_or, hsingle, held_eq]

theorem held_extend (s : Session) (x : String) : s.extend.held x = s.held x := by
  rw [held_eq, held_eq, extend]

/-- Afterwards the checker holds the ledger that it is served from, and the others hold theirs. -/
theorem held_enter (s : Session) (checker : String) (share : Option String) (x : String) :
    (s.enter checker share).1.held x =
      if x = checker then some (s.enter checker share).2 else s.held x := by
  unfold enter
  cases hc : s.numberOf? checker with
  | some n =>
      by_cases hx : x = checker
      · subst hx
        simp [held, hc]
      · simp [hx]
  | none =>
      have hheld : s.held checker = none := by
        rw [held, hc]
        rfl
      have hjoined : ∀ (t : Session) (n : Fin t.ledgers.length), (∀ y, t.held y = s.held y) →
          (t.join checker n).held x = if x = checker then some n.val else s.held x := by
        intro t n ht
        rw [held_join, ht]
        by_cases hx : x = checker
        · subst hx
          simp [hheld]
        · simp [hx, Ne.symm hx]
      cases share.bind s.numberOf? with
      | some n => exact hjoined s n fun _ => rfl
      | none => exact hjoined s.extend _ s.held_extend

theorem enter_length (s : Session) (checker : String) (share : Option String) :
    (s.enter checker share).1.ledgers.length =
      max s.ledgers.length ((s.enter checker share).2 + 1) := by
  have hlt : ∀ n : Fin s.ledgers.length, s.ledgers.length = max s.ledgers.length (n.val + 1) :=
    fun n => (Nat.max_eq_left n.isLt).symm
  unfold enter
  cases s.numberOf? checker with
  | some n => exact hlt n
  | none =>
      cases share.bind s.numberOf? with
      | some n => exact hlt n
      | none => simp [join, extend]

theorem held_replace (s : Session) (number : Nat) (l : Ledger) (x : String) :
    (s.replace number l).held x = s.held x := by
  rw [held_eq, held_eq, replace]

/-- The steps that reach the ledger of a number. -/
def addressed (n : Nat) (s : Session) : List Step → List Step
  | [] => []
  | step :: steps =>
    let entered := s.enter step.checker step.share
    if entered.2 = n then step :: entered.1.addressed n steps else entered.1.addressed n steps

/-- Two sessions in which every name leads to the same number. -/
structure SameNumbers (s t : Session) : Prop where
  held : ∀ x, s.held x = t.held x
  length : s.ledgers.length = t.ledgers.length

theorem SameNumbers.enter_number {s t : Session} (h : SameNumbers s t) (checker : String)
    (share : Option String) : (s.enter checker share).2 = (t.enter checker share).2 := by
  have hheld : s.held = t.held := funext h.held
  rw [Session.enter_number, Session.enter_number, hheld, h.length]

theorem SameNumbers.enter {s t : Session} (h : SameNumbers s t) (checker : String)
    (share : Option String) :
    SameNumbers (s.enter checker share).1 (t.enter checker share).1 where
  held x := by rw [held_enter, held_enter, h.enter_number, h.held]
  length := by rw [enter_length, enter_length, h.enter_number, h.length]

theorem SameNumbers.addressed_eq {n : Nat} {s t : Session} (h : SameNumbers s t)
    (steps : List Step) : s.addressed n steps = t.addressed n steps := by
  induction steps generalizing s t with
  | nil => rfl
  | cons step steps ih =>
      simp only [addressed, h.enter_number, ih (h.enter step.checker step.share)]

/-- If all checkers are there, each step goes to the ledger that its checker holds. -/
theorem addressed_of_held {n : Nat} {s : Session} {steps : List Step}
    (h : ∀ step ∈ steps, (s.held step.checker).isSome) :
    s.addressed n steps = steps.filter fun step => s.held step.checker = some n := by
  induction steps with
  | nil => rfl
  | cons step steps ih =>
      obtain ⟨k, hk⟩ := Option.isSome_iff_exists.mp (h step (List.mem_cons_self ..))
      have hsame : SameNumbers (s.enter step.checker step.share).1 s := by
        have hnumber : (s.enter step.checker step.share).2 = k := by
          rw [enter_number, hk]
          rfl
        refine ⟨fun x => ?_, ?_⟩
        · rw [held_enter, hnumber]
          split
          next hx => rw [hx, hk]
          next => rfl
        · rw [enter_length, hnumber]
          exact Nat.max_eq_left (lt_of_held hk)
      have hrest := ih fun x hx => h x (List.mem_cons_of_mem _ hx)
      simp only [addressed, hsame.addressed_eq, hrest, enter_number, hk, Option.some_or,
        Option.getD_some, List.filter_cons, Option.some.injEq, decide_eq_true_eq]

/-! ## What is seen -/

/-- What is seen from the ledger of a number while a session goes on. -/
def seen (basis : Basis) (s : Session) (n : Nat) (steps : List Step) (log : List Log.Entry) :
    Sight :=
  let done := ((s.run basis steps).run log).1
  ((exchanges n steps done.1).map fun x => (x.2.answer, x.2.ledger), done.2.ledger n)

/-- The steps that go to a ledger are told by the names alone, although the session is another
one after each step. -/
theorem exchanges_requests (basis : Basis) (n : Nat) (s : Session) (steps : List Step) :
    ∃ outs t, (s.run basis steps).Yields (outs, t)
      ∧ (exchanges n steps outs).map (·.1) = (s.addressed n steps).map (·.request) := by
  induction steps generalizing s with
  | nil => exact ⟨[], s, Logged.yields_pure _, rfl⟩
  | cons step steps ih =>
      have hask := s.ask_enters basis step.checker step.share step.request
      obtain ⟨outs, t, hrun, hrequests⟩ := ih _
      refine ⟨_, t, hask.bind (hrun.bind (Logged.yields_pure _)), ?_⟩
      -- the rest is taken from a session with another ledger in place, under the same numbers
      have hsame : ∀ (s : Session) number l, SameNumbers (s.replace number l) s := by
        intro s number l
        exact ⟨s.held_replace number l, List.length_set⟩
      rw [(hsame _ _ _).addressed_eq] at hrequests
      simp only [exchanges, List.zip_cons_cons, List.filterMap_cons, Request.outcome_number,
        addressed]
      by_cases hn : (s.enter step.checker step.share).2 = n
      · simp only [hn, if_true, List.map_cons, ← hrequests, exchanges]
      · simp only [hn, if_false, ← hrequests, exchanges]

/-- What is seen from a ledger follows from what it holds at the start and from the requests that
reach it. -/
theorem seen_eq_served (basis : Basis) (s : Session) (n : Nat) (steps : List Step)
    (log : List Log.Entry) :
    s.seen basis n steps log =
      served basis (s.ledger n) ((s.addressed n steps).map (·.request)) := by
  obtain ⟨outs, t, hrun, hrequests⟩ := exchanges_requests basis n s steps
  obtain ⟨outs', t', hrun', hseries⟩ := s.run_yields basis steps
  obtain ⟨rfl, rfl⟩ := Prod.mk.injEq .. |>.mp ((hrun log).symm.trans (hrun' log))
  rw [← hrequests, ← (hseries n).sight_eq, seen, hrun log]

/-! ## Without the other steps -/

/-- A session with some steps left out keeps up with the whole one: as far as the ledger of number
`n` goes, which has the number `m` there. -/
structure Mirrors (n m : Nat) (s t : Session) : Prop where
  holders : ∀ x, s.held x = some n ↔ t.held x = some m
  absent : ∀ x, s.held x = none → t.held x = none
  made : n < s.ledgers.length ↔ m < t.ledgers.length
  next_le : m ≤ t.ledgers.length

/-- A ledger that is not there yet will be the next one if all else is left out. -/
theorem mirrors_self (n : Nat) (s : Session) : Mirrors n (min n s.ledgers.length) s s := by
  have hheld : ∀ x, s.held x = some n ↔ s.held x = some (min n s.ledgers.length) := by
    intro x
    refine ⟨fun h => ?_, fun h => ?_⟩
    · rw [h, Nat.min_eq_left (Nat.le_of_lt (lt_of_held h))]
    · have hlt := lt_of_held h
      rw [h, Nat.min_eq_left (by omega)]
  exact ⟨hheld, fun _ h => h, by omega, Nat.min_le_right ..⟩

/-- A ledger that is not there yet holds as little as the next one. -/
theorem ledger_min (s : Session) (n : Nat) : s.ledger (min n s.ledgers.length) = s.ledger n := by
  rcases Nat.le_total n s.ledgers.length with hle | hle
  · rw [Nat.min_eq_left hle]
  · rw [Nat.min_eq_right hle, ledger, ledger, List.getElem?_eq_none (Nat.le_refl _),
      List.getElem?_eq_none hle]

namespace Mirrors

variable {n m : Nat} {s t : Session} {checker : String} {share : Option String}

theorem enter_number (h : Mirrors n m s t) (hn : (s.enter checker share).2 = n) :
    (t.enter checker share).2 = m := by
  rw [Session.enter_number] at hn ⊢
  cases hc : s.held checker with
  | some k =>
      obtain rfl : k = n := by simpa [hc] using hn
      rw [(h.holders checker).mp hc]
      rfl
  | none =>
      rw [h.absent checker hc]
      rw [hc, Option.none_or] at hn
      rw [Option.none_or]
      cases hshare : share.bind s.held with
      | some k =>
          obtain ⟨other, rfl, hother⟩ := Option.bind_eq_some_iff.mp hshare
          obtain rfl : k = n := by simpa [hother] using hn
          show (t.held other).getD _ = m
          rw [(h.holders other).mp hother]
          rfl
      | none =>
          -- the ledger is made now, so the other session cannot have one for it yet
          have hnew : s.ledgers.length = n := by simpa [hshare] using hn
          have habsent : share.bind t.held = none := by
            cases share with
            | none => rfl
            | some other => exact h.absent other hshare
          have hmade := h.made
          have hnext := h.next_le
          rw [habsent]
          show t.ledgers.length = m
          omega

/-- A step to the ledger is taken by both. -/
theorem enter_both (h : Mirrors n m s t) (hn : (s.enter checker share).2 = n) :
    Mirrors n m (s.enter checker share).1 (t.enter checker share).1 := by
  have hm := h.enter_number hn
  refine ⟨fun x => ?_, fun x => ?_, ?_, ?_⟩
  · rw [held_enter, held_enter, hn, hm]
    split
    · simp
    · exact h.holders x
  · rw [held_enter, held_enter]
    split
    · exact nofun
    · exact h.absent x
  · rw [enter_length, enter_length, hn, hm]
    omega
  · rw [enter_length, hm]
    omega

/-- A step to another ledger is taken by the whole session alone. -/
theorem enter_left (h : Mirrors n m s t) (hn : (s.enter checker share).2 ≠ n) :
    Mirrors n m (s.enter checker share).1 t := by
  have hnumber := s.enter_number checker share
  refine ⟨fun x => ?_, fun x => ?_, ?_, h.next_le⟩
  · rw [held_enter]
    split
    next hx =>
      -- the checker is served from another ledger, and if it held one before, from that one
      have hne : s.held x ≠ some n := by
        intro hs
        rw [← hx, hs] at hnumber
        exact hn (by rw [← hx, hnumber]; rfl)
      simp [hn, ← h.holders x, hne]
    next => exact h.holders x
  · rw [held_enter]
    split
    · exact nofun
    · exact h.absent x
  · have hmade := h.made
    have hle := s.enter_le checker share
    rw [enter_length]
    omega

theorem addressed_addressed (h : Mirrors n m s t) (steps : List Step) :
    t.addressed m (s.addressed n steps) = s.addressed n steps := by
  induction steps generalizing s t with
  | nil => rfl
  | cons step steps ih =>
      simp only [addressed]
      split
      next hn =>
        simp only [addressed, h.enter_number hn, if_true, ih (h.enter_both hn)]
      next hn => exact ih (h.enter_left hn)

end Mirrors

/-- **Isolation.** Let steps be taken in a session, and look at one ledger.

* The same is seen from any ledger, in whatever session, that holds the same at the start and is
  reached by the same requests in the same order.
* It is seen if only the steps to this ledger are taken. They all reach it then, with the number
  that comes next if it was not there before.
* Among checkers that are there, the steps to other ledgers may be left out, put in and moved, and
  each step to this one may be taken by any checker that holds it.
* After a step that clears the ledger, the same is seen as from an empty ledger of any session that
  is reached by the requests that are left. -/
theorem seen_isolated (basis : Basis) (s : Session) (n : Nat) (steps : List Step)
    (log : List Log.Entry) :
    (∀ (s' : Session) (n' : Nat) (steps' : List Step) (log' : List Log.Entry),
        s'.ledger n' = s.ledger n →
        (s'.addressed n' steps').map (·.request) = (s.addressed n steps).map (·.request) →
        s'.seen basis n' steps' log' = s.seen basis n steps log)
      ∧ (let own := s.addressed n steps
        let m := min n s.ledgers.length
        s.addressed m own = own ∧ ∀ log', s.seen basis m own log' = s.seen basis n steps log)
      ∧ ((∀ step ∈ steps, (s.held step.checker).isSome) → ∀ (steps' : List Step) log',
        (∀ step ∈ steps', (s.held step.checker).isSome) →
        (steps'.filter fun step => s.held step.checker = some n).map (·.request) =
          (steps.filter fun step => s.held step.checker = some n).map (·.request) →
        s.seen basis n steps' log' = s.seen basis n steps log)
      ∧ ∀ before step after, s.addressed n steps = before ++ step :: after →
        step.request = .clear → ∀ (fresh : Session) (k : Nat) (later : List Step) log',
        fresh.ledger k = .empty →
        (fresh.addressed k later).map (·.request) = after.map (·.request) →
        ((s.seen basis n steps log).1.drop (before.length + 1), (s.seen basis n steps log).2) =
          fresh.seen basis k later log' := by
  have hsame : ∀ (s' : Session) n' steps' log', s'.ledger n' = s.ledger n →
      (s'.addressed n' steps').map (·.request) = (s.addressed n steps).map (·.request) →
      s'.seen basis n' steps' log' = s.seen basis n steps log := by
    intro s' n' steps' log' hledger hrequests
    rw [seen_eq_served, seen_eq_served, hledger, hrequests]
  refine ⟨hsame, ⟨?_, fun log' => ?_⟩, ?_, ?_⟩
  · exact (mirrors_self n s).addressed_addressed steps
  · refine hsame s _ _ log' ?_ ?_
    · exact s.ledger_min n
    · rw [(mirrors_self n s).addressed_addressed]
  · intro hsteps steps' log' hsteps' hrequests
    refine hsame s n steps' log' rfl ?_
    rw [addressed_of_held hsteps, addressed_of_held hsteps', hrequests]
  · intro before step after hsplit hclear fresh k later log' hfresh hrequests
    rw [seen_eq_served basis fresh, hfresh, hrequests, seen_eq_served, hsplit, List.map_append,
      List.map_cons, hclear]
    have hdrop := drop_served_clear basis (s.ledger n) (before.map (·.request))
      (after.map (·.request))
    rw [List.length_map] at hdrop
    exact hdrop

/-- Two checkers that share a ledger, and one that has its own. -/
def company : Session where
  checkers := [("main", 0), ("second", 0), ("other", 1)]
  ledgers := [.empty, .empty]
  numbered := by decide

/-- The shared ledger is filled, cleared and filled again, while requests to the other one, a
faulty one among them, come in between. -/
def interleaved : List Step :=
  [⟨"main", none, .checkHeading ⟨.ofWords defaultWords [], false, []⟩ theEnd 0⟩,
    ⟨"other", none, .set "the end" "THE END"⟩,
    ⟨"second", none, .clear⟩,
    ⟨"other", none, .analyze (.raw (.int 1)) (.document none [theEnd])⟩,
    ⟨"main", none, .analyze (.raw .null) (.document none [theEnd])⟩]

/-- The same requests to the shared ledger, each from the other one of its checkers, and a part of
the other requests, moved to the front. -/
def rearranged : List Step :=
  [⟨"other", none, .analyze (.raw (.int 1)) (.document none [theEnd])⟩,
    ⟨"second", none, .checkHeading ⟨.ofWords defaultWords [], false, []⟩ theEnd 0⟩,
    ⟨"main", none, .clear⟩,
    ⟨"second", none, .analyze (.raw .null) (.document none [theEnd])⟩]

/-- The two checkers of the shared ledger see the same, which is what a single new checker sees
if all the requests come from it, and what it sees of the last one if it comes in after the
clearing. -/
theorem seen_isolated_rearranged :
    start.seen .plain 0 ([interleaved[0], interleaved[2], interleaved[4]].map fun step =>
        ⟨"new", none, step.request⟩) [] = company.seen .plain 0 interleaved []
      ∧ company.seen .plain 0 rearranged [] = company.seen .plain 0 interleaved []
      ∧ company.seen .plain 0 [interleaved[0], interleaved[2], interleaved[4]] [] =
        company.seen .plain 0 interleaved []
      ∧ ((company.seen .plain 0 interleaved []).1.drop 2,
          (company.seen .plain 0 interleaved []).2) =
        start.seen .plain 0 [⟨"new", none, .analyze (.raw .null) (.document none [theEnd])⟩] []
      ∧ (company.seen .plain 0 interleaved []).2.entries = [("the end", "The End")] := by
  obtain ⟨hsame, ⟨-, halone⟩, hmoved, hcleared⟩ := seen_isolated .plain company 0 interleaved []
  refine ⟨hsame start 0 _ [] rfl rfl,
    hmoved (by decide +kernel) rearranged [] (by decide +kernel) rfl, halone [], ?_, ?_⟩
  · exact hcleared [interleaved[0]] interleaved[2] [interleaved[4]] rfl rfl start 0 _ [] rfl rfl
  · decide +kernel

end Session

end Headline
