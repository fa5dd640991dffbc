import Headline.Check
import Headline.Proofs.Document.Walk
import Headline.Proofs.Log
import Headline.Proofs.Title.Ledger

/-!
# What a check finds

A check goes through headings in order and writes the ledger while it reads it. Here it is
taken apart into two lists that no ledger is threaded through: the titles that come up for
the first time (`firsts`), and for each of them the verdict on the heading by itself. The
findings are the verdicts, and the ledger grows by the titles (`settle`), also by those that
were right.

`settle` goes over the concatenation of lists of titles (`settle_append`), so that the same
two facts hold of a document, of a series of documents and of a series of requests.
-/

namespace Headline.Check

/-! ## One heading -/

/-- What is wrong with a heading, judged by itself. -/
def verdict (o : RuleOptions) (h : Block) (index : Int) : Option Finding :=
  if rightForm o (titleOf o h) = titleOf o h then none
  else some (finding h index (titleOf o h) (rightForm o (titleOf o h)))

theorem verdict_eq_none {o : RuleOptions} {h : Block} {index : Int}
    (hr : rightForm o (titleOf o h) = titleOf o h) : verdict o h index = none :=
  if_pos hr

theorem verdict_eq_some {o : RuleOptions} {h : Block} {index : Int}
    (hr : rightForm o (titleOf o h) ≠ titleOf o h) :
    verdict o h index = some (finding h index (titleOf o h) (rightForm o (titleOf o h))) :=
  if_neg hr

/-- The ledger after titles have come up in order: those that are new to it are entered with
their right form. -/
def settle (o : RuleOptions) (l : Ledger) (titles : List String) : Ledger :=
  ⟨l.entries ++ (firsts id l.titles titles).map fun t => (t, rightForm o t)⟩

@[simp] theorem settle_nil (o : RuleOptions) (l : Ledger) : settle o l [] = l := by
  simp [settle, firsts]

theorem titles_settle (o : RuleOptions) (l : Ledger) (titles : List String) :
    (settle o l titles).titles = l.titles ++ firsts id l.titles titles := by
  simp [settle, Ledger.titles, Function.comp_def]

theorem mem_titles_settle {o : RuleOptions} {l : Ledger} {titles : List String} {t : String} :
    t ∈ (settle o l titles).titles ↔ t ∈ l.titles ∨ t ∈ titles := by
  rw [titles_settle, List.mem_append, mem_firsts_id]
  by_cases ht : t ∈ l.titles <;> simp [ht]

theorem settle_append (o : RuleOptions) (l : Ledger) (ts us : List String) :
    settle o l (ts ++ us) = settle o (settle o l ts) us := by
  have hsame : firsts id (l.titles ++ ts.map id) us = firsts id (settle o l ts).titles us :=
    firsts_congr us fun k => by rw [List.map_id, mem_titles_settle, List.mem_append]
  rw [settle, firsts_append, hsame, List.map_append, ← List.append_assoc]
  rfl

theorem settle_known {o : RuleOptions} {l : Ledger} {t : String} (ht : t ∈ l.titles) :
    settle o l [t] = l := by
  rw [settle, firsts_singleton, id_eq, if_pos ht, List.map_nil, List.append_nil]

theorem settle_new {o : RuleOptions} {l : Ledger} {t : String} (ht : t ∉ l.titles) :
    settle o l [t] = l.put t (rightForm o t) := by
  rw [settle, firsts_singleton, id_eq, if_neg ht, Ledger.put_of_notMem ht]
  rfl

/-- One heading: silence if its title is known, and its verdict otherwise. -/
theorem heading_yields (o : RuleOptions) (h : Block) (index : Int) (l : Ledger) :
    (heading o h index l).Yields
      (if titleOf o h ∈ l.titles then none else verdict o h index,
        settle o l [titleOf o h]) := by
  unfold heading
  by_cases ht : titleOf o h ∈ l.titles
  · rw [if_pos (Ledger.contains_iff.mpr ht), if_pos ht, settle_known ht]
    exact (Logged.yields_write _ _ _).bind (Logged.yields_pure _)
  · have hc : ¬l.contains (titleOf o h) = true := fun hc => ht (Ledger.contains_iff.mp hc)
    rw [if_neg hc, if_neg ht, settle_new ht]
    by_cases hr : rightForm o (titleOf o h) = titleOf o h
    · rw [verdict_eq_none hr]
      simp only [hr, if_true]
      exact Logged.yields_pure _
    · rw [verdict_eq_some hr]
      simp only [hr, if_false]
      exact (Logged.yields_write _ _ _).bind (Logged.yields_pure _)

/-- A single heading is flagged if its title is new and not in its right form. -/
theorem flagged_verdict (o : RuleOptions) (known : List String) (h : Block) (index : Int) :
    (if titleOf o h ∈ known then none else verdict o h index).toList.map Finding.flagged =
      (firsts id known [titleOf o h]).filter fun t => decide (rightForm o t ≠ t) := by
  rw [firsts_singleton, id_eq]
  by_cases ht : titleOf o h ∈ known
  · rw [if_pos ht, if_pos ht]
    rfl
  · rw [if_neg ht, if_neg ht]
    by_cases hr : rightForm o (titleOf o h) = titleOf o h
    · simp [verdict_eq_none hr, hr]
    · rw [verdict_eq_some hr, List.filter_cons, if_pos (decide_eq_true hr)]
      rfl

/-! ## Headings in order -/

/-- The findings among headings with their indices, judged each by itself where its title is
new. -/
def findings (o : RuleOptions) (known : List String) (places : List (Block × Nat)) :
    List Finding :=
  (firsts (fun x => titleOf o x.1) known places).filterMap fun x => verdict o x.1 x.2

theorem findings_append (o : RuleOptions) (known : List String) (xs ys : List (Block × Nat)) :
    findings o known (xs ++ ys) =
      findings o known xs ++ findings o (known ++ xs.map fun x => titleOf o x.1) ys := by
  rw [findings, firsts_append, List.filterMap_append]
  rfl

/-- Only which titles are known matters. -/
theorem findings_congr {o : RuleOptions} {known known' : List String}
    (places : List (Block × Nat)) (h : ∀ t, t ∈ known ↔ t ∈ known') :
    findings o known places = findings o known' places := by
  rw [findings, findings, firsts_congr places h]

theorem findings_singleton (o : RuleOptions) (known : List String) (h : Block) (k : Nat) :
    findings o known [(h, k)] =
      (if titleOf o h ∈ known then none else verdict o h k).toList := by
  rw [findings, firsts_singleton]
  by_cases ht : titleOf o h ∈ known
  · rw [if_pos ht, if_pos ht]
    rfl
  · rw [if_neg ht, if_neg ht]
    cases hv : verdict o h k <;> simp [hv]

/-- Judging all members and leaving out those that pass, or leaving these out before. -/
theorem filterMap_unless {α β : Type} (p : α → Prop) [DecidablePred p] (f : α → β) :
    ∀ xs : List α, (xs.filterMap fun x => if p x then none else some (f x)) =
      (xs.filter fun x => decide (¬p x)).map f
  | [] => rfl
  | x :: xs => by
      rw [List.filterMap_cons, List.filter_cons]
      by_cases hp : p x
      · rw [if_pos hp, if_neg (by simp [hp])]
        exact filterMap_unless p f xs
      · rw [if_neg hp, if_pos (decide_eq_true hp), List.map_cons]
        exact congrArg _ (filterMap_unless p f xs)

/-- The verdicts on headings are the findings on those that are wrong. -/
theorem filterMap_verdict (o : RuleOptions) (xs : List (Block × Nat)) :
    (xs.filterMap fun x => verdict o x.1 x.2) =
      (xs.filter fun x => decide (rightForm o (titleOf o x.1) ≠ titleOf o x.1)).map fun x =>
        finding x.1 x.2 (titleOf o x.1) (rightForm o (titleOf o x.1)) := by
  unfold verdict
  rw [filterMap_unless]

/-- The titles that are flagged are the new ones that are not in their right form. -/
theorem flagged_findings (o : RuleOptions) (known : List String) (places : List (Block × Nat)) :
    (findings o known places).map Finding.flagged =
      (firsts id known (places.map fun x => titleOf o x.1)).filter fun t =>
        decide (rightForm o t ≠ t) := by
  rw [findings, filterMap_verdict, List.map_map, firsts_map, List.filter_map]
  rfl

theorem map_titleOf_zipIdx (o : RuleOptions) (hs : List Block) (k : Nat) :
    ((hs.zipIdx k).map fun x => titleOf o x.1) = hs.map (titleOf o) := by
  conv => rhs; rw [← List.zipIdx_map_fst k hs]
  rw [List.map_map]
  rfl

/-- The loop over headings, as two lists. The induction is on the headings; the ledger of the
next step is that of this one with one more title settled. -/
theorem headings_yields (o : RuleOptions) : ∀ (hs : List Block) (k : Nat) (l : Ledger),
    (headings o k l hs).Yields
      (findings o l.titles (hs.zipIdx k), settle o l (hs.map (titleOf o)))
  | [], k, l => by
      rw [headings, List.map_nil, settle_nil]
      exact Logged.yields_pure _
  | h :: hs, k, l => by
      have hrest := headings_yields o hs (k + 1) (settle o l [titleOf o h])
      have hknown : findings o (l.titles ++ [titleOf o h]) (hs.zipIdx (k + 1)) =
          findings o (settle o l [titleOf o h]).titles (hs.zipIdx (k + 1)) :=
        findings_congr _ fun t => by rw [mem_titles_settle, List.mem_append]
      have hsplit : findings o l.titles ((h :: hs).zipIdx k) =
          findings o l.titles [(h, k)] ++
            findings o (l.titles ++ [titleOf o h]) (hs.zipIdx (k + 1)) := by
        rw [List.zipIdx_cons, ← List.singleton_append, findings_append]
        rfl
      have hsettle : settle o l ((h :: hs).map (titleOf o)) =
          settle o (settle o l [titleOf o h]) (hs.map (titleOf o)) :=
        settle_append o l [titleOf o h] (hs.map (titleOf o))
      rw [headings, hsplit, hknown, findings_singleton, hsettle]
      exact (heading_yields o h k l).bind (hrest.bind (Logged.yields_pure _))

/-- A document: the same with the headings in document order. -/
theorem document_yields (o : RuleOptions) (d : Block) (l : Ledger) :
    (document o d l).Yields
      (findings o l.titles d.headings.zipIdx, settle o l (d.headings.map (titleOf o))) :=
  headings_yields o d.headings 0 l

/-- Checked options cannot fail any more. -/
theorem documentWith_built_yields (basis : Basis) (o : RuleOptions) (d : Block) (l : Ledger) :
    (documentWith basis (.built o) d l).run.Yields
      (.ok (findings o l.titles d.headings.zipIdx,
        settle o l (d.headings.map (titleOf o)))) :=
  LoggedExcept.yields_bind_ok (LoggedExcept.yields_pure o)
    (LoggedExcept.yields_lift (document_yields o d l))

/-! ## By places

The same two lists, cut out of all headings by the place at which each one stands. -/

theorem findings_eq_filter (o : RuleOptions) (known : List String) (hs : List Block) :
    findings o known hs.zipIdx =
      ((hs.zipIdx.filter fun x => decide (titleOf o x.1 ∉ known ∧
          titleOf o x.1 ∉ (hs.take x.2).map (titleOf o))).filter fun x =>
        decide (rightForm o (titleOf o x.1) ≠ titleOf o x.1)).map fun x =>
          finding x.1 x.2 (titleOf o x.1) (rightForm o (titleOf o x.1)) := by
  rw [findings, firsts_zipIdx (titleOf o) known hs, filterMap_verdict]

theorem settle_eq_filter (o : RuleOptions) (l : Ledger) (hs : List Block) :
    settle o l (hs.map (titleOf o)) =
      ⟨l.entries ++ (hs.zipIdx.filter fun x => decide (titleOf o x.1 ∉ l.titles ∧
          titleOf o x.1 ∉ (hs.take x.2).map (titleOf o))).map fun x =>
        (titleOf o x.1, rightForm o (titleOf o x.1))⟩ := by
  rw [settle, ← map_titleOf_zipIdx o hs 0, firsts_map, List.map_map]
  have hplaces := firsts_zipIdx (titleOf o) l.titles hs
  rw [← hplaces]
  rfl

/-- **What a check finds and what it leaves behind.** Under checked options a check of a
document never fails, whatever the ledger holds. Among the headings `hs` on a walk through the
document, `fresh` are those whose title the ledger does not know and no heading further ahead
has. There is one finding for each of these that is not in its right form, in their order, and
the ledger grows by all of them, in their order, and by nothing else. -/
theorem documentWith_built_eq (basis : Basis) (o : RuleOptions) (d : Block) (l : Ledger)
    (log : List Log.Entry) :
    let hs := (d.walk none).filter (·.kind == .heading)
    let title := titleOf o
    let fresh := hs.zipIdx.filter fun x =>
      decide (title x.1 ∉ l.titles ∧ title x.1 ∉ (hs.take x.2).map title)
    let right := fun h => rightForm o (title h)
    let wrong := fresh.filter fun x => decide (right x.1 ≠ title x.1)
    ∃ found after, ((documentWith basis (.built o) d l).run.run log).1 = .ok (found, after)
      ∧ (found.map fun f => (f.report, f.heading, f.line, f.level, f.flagged)) =
        (wrong.map fun x =>
          ({ message :=
              s!"Heading capitalization error. Expected: '{right x.1}' found: '{title x.1}'"
             suggestions := [right x.1]
             sentence := title x.1
             index := x.2
             severity := .low },
            x.1, x.1.line, x.1.level, title x.1))
      ∧ after.entries = l.entries ++ fresh.map fun x => (title x.1, right x.1) := by
  intro hs title fresh right wrong
  have hrun := documentWith_built_yields basis o d l log
  rw [Block.headings_eq, findings_eq_filter, settle_eq_filter] at hrun
  refine ⟨_, _, hrun, ?_, rfl⟩
  rw [List.map_map]
  rfl

end Headline.Check
