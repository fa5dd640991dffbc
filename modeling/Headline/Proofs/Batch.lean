import Headline.Batch
import Headline.Proofs.Check

/-!
# What a check of many files finds

The ledger goes from file to file, and a file that fails leaves it alone. So the files that can
be read are checked as if their headings stood in one document, in file order: these headings,
each with its file, are the `occurrences`, and what is found are the verdicts on those whose
title comes up for the first time.

Which titles come up does not depend on the order of the files or on how often one is named.
That gives the facts at the end: what is found wrong, and whether the run ends well, is a matter
of the set of readable files and of whether there is a failing one.
-/

namespace Headline

theorem Document.read_yields (tokenize : Markdown.Tokenizer) (content : Value) (file : String) :
    (Document.read tokenize content file).Yields (Document.ofValue tokenize content file) := by
  unfold Document.read
  cases Document.ofValue tokenize content file with
  | ok d => exact (Logged.yields_write _ _ _).bind (Logged.yields_pure _)
  | error fault => exact (Logged.yields_write _ _ _).bind (Logged.yields_pure _)

namespace Batch

variable (tokenize : Markdown.Tokenizer)

/-! ## One file -/

/-- The document in the file at a path, or why the file cannot be checked. -/
def documentAt (files : Files) (path : String) : Except Fault Block :=
  (readText files path).bind fun text =>
    (Document.ofValue tokenize (.str text) path).mapError .document

theorem readDocument_yields (files : Files) (path : String) :
    (readDocument tokenize files path).run.Yields (documentAt tokenize files path) := by
  refine LoggedExcept.yields_bind (LoggedExcept.yields_ofResult (readText files path))
    fun text => ?_
  have hread := Document.read_yields tokenize (.str text) path
  cases hd : Document.ofValue tokenize (.str text) path with
  | ok d =>
      rw [hd] at hread
      exact hread.bind (Logged.yields_pure _)
  | error fault =>
      rw [hd] at hread
      exact hread.bind (Logged.yields_pure _)

/-- Whether the file at a path cannot be opened, decoded or read as a document. -/
def fails (files : Files) (path : String) : Bool := !(documentAt tokenize files path).isOk

/-- The headings of the file at a path with their indices; a file that fails has none. -/
def headingsAt (files : Files) (path : String) : List (Block × Nat) :=
  match documentAt tokenize files path with
  | .ok d => d.headings.zipIdx
  | .error _ => []

/-- One file. A failing file adds to the count of those and to nothing else. -/
theorem checkFile_yields (o : RuleOptions) (files : Files) (t : Tally) (path : String) :
    (checkFile tokenize o files t path).Yields
      ⟨Check.settle o t.ledger ((headingsAt tokenize files path).map fun x => Check.titleOf o x.1),
        t.found ++
          (Check.findings o t.ledger.titles (headingsAt tokenize files path)).map (path, ·),
        t.failed + if fails tokenize files path then 1 else 0⟩ := by
  have hread := readDocument_yields tokenize files path
  unfold checkFile
  cases hd : documentAt tokenize files path with
  | ok d =>
      rw [hd] at hread
      have hcheck := Check.document_yields o d t.ledger
      simp only [headingsAt, fails, hd, Check.map_titleOf_zipIdx]
      exact hread.bind (hcheck.bind (Logged.yields_pure _))
  | error fault =>
      rw [hd] at hread
      simp only [headingsAt, fails, hd, List.map_nil, Check.settle_nil]
      rw [show Check.findings o t.ledger.titles [] = [] from rfl, List.map_nil, List.append_nil]
      exact hread.bind ((Logged.yields_write _ _ _).bind (Logged.yields_pure _))

/-! ## Files in order -/

/-- The headings of the files that can be read, in the order of the files and of each document,
with the path of the file and the index in the document. -/
def occurrences (files : Files) (paths : List String) : List (String × Block × Nat) :=
  paths.flatMap fun path => (headingsAt tokenize files path).map (path, ·)

/-- The title of an occurrence. -/
def titleAt (o : RuleOptions) (x : String × Block × Nat) : String := Check.titleOf o x.2.1

/-- What is found wrong with an occurrence, judged by itself. -/
def verdictAt (o : RuleOptions) (x : String × Block × Nat) : Option (String × Finding) :=
  (Check.verdict o x.2.1 x.2.2).map (x.1, ·)

/-- The findings of one file, each with its path. -/
theorem findings_at (o : RuleOptions) (known : List String) (path : String)
    (places : List (Block × Nat)) :
    (Check.findings o known places).map (path, ·) =
      (firsts (titleAt o) known (places.map (path, ·))).filterMap (verdictAt o) := by
  rw [Check.findings, firsts_map, List.map_filterMap, List.filterMap_map]
  rfl

/-- **Files as one document.** The loop over files with its ledger comes to the first
occurrences of titles in all of them. -/
theorem checkFiles_yields (o : RuleOptions) (files : Files) : ∀ (paths : List String) (t : Tally),
    (checkFiles tokenize o files t paths).Yields
      ⟨Check.settle o t.ledger ((occurrences tokenize files paths).map (titleAt o)),
        t.found ++
          (firsts (titleAt o) t.ledger.titles (occurrences tokenize files paths)).filterMap
            (verdictAt o),
        t.failed + paths.countP (fails tokenize files)⟩
  | [], t => by
      rw [checkFiles]
      simp only [occurrences, List.flatMap_nil, List.map_nil, Check.settle_nil, firsts,
        List.filterMap_nil, List.append_nil, List.countP_nil, Nat.add_zero]
      exact Logged.yields_pure _
  | path :: paths, t => by
      have hfile := checkFile_yields tokenize o files t path
      have hrest := checkFiles_yields o files paths
        ⟨Check.settle o t.ledger
            ((headingsAt tokenize files path).map fun x => Check.titleOf o x.1),
          t.found ++
            (Check.findings o t.ledger.titles (headingsAt tokenize files path)).map (path, ·),
          t.failed + if fails tokenize files path then 1 else 0⟩
      have htitles : ((headingsAt tokenize files path).map (path, ·)).map (titleAt o) =
          (headingsAt tokenize files path).map fun x => Check.titleOf o x.1 := by
        rw [List.map_map]
        rfl
      have hknown : firsts (titleAt o) (t.ledger.titles ++
            (headingsAt tokenize files path).map fun x => Check.titleOf o x.1)
            (occurrences tokenize files paths) =
          firsts (titleAt o) (Check.settle o t.ledger
            ((headingsAt tokenize files path).map fun x => Check.titleOf o x.1)).titles
            (occurrences tokenize files paths) :=
        firsts_congr _ fun k => by rw [Check.mem_titles_settle, List.mem_append]
      have hcount : t.failed + (path :: paths).countP (fails tokenize files) =
          (t.failed + if fails tokenize files path then 1 else 0) +
            paths.countP (fails tokenize files) := by
        rw [List.countP_cons]
        omega
      have hsplit : occurrences tokenize files (path :: paths) =
          (headingsAt tokenize files path).map (path, ·) ++ occurrences tokenize files paths := rfl
      rw [checkFiles, hsplit, List.map_append, Check.settle_append, firsts_append,
        List.filterMap_append, htitles, hknown, ← findings_at, ← List.append_assoc, hcount]
      exact hfile.bind hrest

/-! ## What is reported -/

/-- The occurrences whose title is not in its right form and has not come up before. -/
def reported (o : RuleOptions) (xs : List (String × Block × Nat)) : List (String × Block × Nat) :=
  (xs.zipIdx.filter fun x => decide (Check.rightForm o (titleAt o x.1) ≠ titleAt o x.1 ∧
    titleAt o x.1 ∉ (xs.take x.2).map (titleAt o))).map (·.1)

theorem reported_eq (o : RuleOptions) (xs : List (String × Block × Nat)) :
    reported o xs = (firsts (titleAt o) [] xs).filter fun x =>
      decide (Check.rightForm o (titleAt o x) ≠ titleAt o x) := by
  rw [firsts_eq_filter, List.filter_map, List.filter_filter]
  simp only [reported, List.not_mem_nil, not_false_eq_true, true_and, Bool.decide_and]
  rfl

/-- What is found, written out. -/
theorem found_eq (o : RuleOptions) (xs : List (String × Block × Nat)) :
    (firsts (titleAt o) [] xs).filterMap (verdictAt o) = (reported o xs).map fun x =>
      (x.1, Check.finding x.2.1 x.2.2 (titleAt o x) (Check.rightForm o (titleAt o x))) := by
  have hverdict : verdictAt o = fun x =>
      if Check.rightForm o (titleAt o x) = titleAt o x then none
      else some (x.1,
        Check.finding x.2.1 x.2.2 (titleAt o x) (Check.rightForm o (titleAt o x))) := by
    funext x
    rw [verdictAt, Check.verdict, apply_ite (Option.map _)]
    rfl
  rw [reported_eq, hverdict, Check.filterMap_unless]

/-- Each title that comes up and is not in its right form is reported in one occurrence. -/
theorem mem_reported {o : RuleOptions} {xs : List (String × Block × Nat)} {t : String} :
    t ∈ (reported o xs).map (titleAt o) ↔
      t ∈ xs.map (titleAt o) ∧ Check.rightForm o t ≠ t := by
  have hfirsts : t ∈ (firsts (titleAt o) [] xs).map (titleAt o) ↔
      t ∈ xs.map (titleAt o) ∧ t ∉ [] := mem_map_firsts xs
  have hfilter : (reported o xs).map (titleAt o) =
      ((firsts (titleAt o) [] xs).map (titleAt o)).filter fun t =>
        decide (Check.rightForm o t ≠ t) := by
    rw [reported_eq, List.filter_map]
    rfl
  rw [hfilter, List.mem_filter, hfirsts, decide_eq_true_eq]
  simp

theorem nodup_reported {o : RuleOptions} {xs : List (String × Block × Nat)} :
    ((reported o xs).map (titleAt o)).Nodup := by
  rw [reported_eq]
  exact (nodup_map_firsts xs).sublist (List.filter_sublist.map _)

theorem reported_eq_nil {o : RuleOptions} {xs : List (String × Block × Nat)} :
    reported o xs = [] ↔ ∀ x ∈ xs, Check.rightForm o (titleAt o x) = titleAt o x := by
  constructor
  · intro hnil x hx
    refine Decidable.byContradiction fun hwrong => ?_
    have hmem := mem_reported.mpr ⟨List.mem_map_of_mem (f := titleAt o) hx, hwrong⟩
    rw [hnil] at hmem
    cases hmem
  · intro hright
    rw [reported_eq, List.filter_eq_nil_iff]
    intro x hx
    rw [decide_eq_true_eq]
    exact fun hwrong => hwrong (hright x ((firsts_sublist xs).mem hx))

/-! ## What does not depend on the order of files -/

theorem headingsAt_of_fails {tokenize : Markdown.Tokenizer} {files : Files} {path : String}
    (h : fails tokenize files path = true) : headingsAt tokenize files path = [] := by
  unfold fails at h
  unfold headingsAt
  cases hd : documentAt tokenize files path with
  | ok d =>
      rw [hd] at h
      cases h
  | error fault => rfl

/-- The readable files decide which headings there are. -/
theorem mem_occurrences_congr {tokenize : Markdown.Tokenizer} {files : Files}
    {paths paths' : List String}
    (h : ∀ path, fails tokenize files path = false → (path ∈ paths ↔ path ∈ paths'))
    (x : String × Block × Nat) :
    x ∈ occurrences tokenize files paths ↔ x ∈ occurrences tokenize files paths' := by
  simp only [occurrences, List.mem_flatMap]
  refine exists_congr fun path => and_congr_left fun hx => ?_
  cases hf : fails tokenize files path with
  | false => exact h path hf
  | true =>
      rw [headingsAt_of_fails hf] at hx
      cases hx

end Batch

end Headline
