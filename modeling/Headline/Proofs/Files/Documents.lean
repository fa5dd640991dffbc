import Headline.Files.Documents
import Headline.Proofs.Files.Path
import Headline.Settings
import Mathlib.Data.List.Sort

/-!
# The documents below a folder

Below a folder a file is told by the names that lead to it. The documents are listed in an order
of such names (`Earlier`): the files of a folder before those of its folders, and both by name. As
this order is strict, a list that ascends in it is determined by what is in it. So it is enough to
know which files are listed (`mem_places`) and that they ascend (`pairwise_places`); that they do
not depend on how a folder lists its entries comes out of it, since these are all facts about
names that lead to files.
-/

namespace Headline.Files

/-- The order of files below a folder. -/
inductive Earlier : List String → List String → Prop where
  /-- two files of the folder -/
  | files {a b : String} (h : a < b) : Earlier [a] [b]
  /-- a file of the folder and one below a folder of it -/
  | fileFirst (a b : String) {ys : List String} (hys : ys ≠ []) : Earlier [a] (b :: ys)
  /-- files below different folders of the folder -/
  | folders {a b : String} {xs ys : List String} (hxs : xs ≠ []) (hys : ys ≠ []) (h : a < b) :
      Earlier (a :: xs) (b :: ys)
  /-- files below the same folder of the folder -/
  | inside (a : String) {xs ys : List String} (h : Earlier xs ys) : Earlier (a :: xs) (a :: ys)

variable {xs ys : List String}

theorem Earlier.ne_nil (h : Earlier xs ys) : xs ≠ [] ∧ ys ≠ [] := by
  cases h <;> simp

theorem Earlier.not_gt (h : Earlier xs ys) : ¬Earlier ys xs := by
  induction h with
  | files h =>
      intro hgt
      cases hgt with
      | files h' => exact String.lt_irrefl _ (String.lt_trans h h')
      | fileFirst _ _ hys => exact hys rfl
      | folders hxs _ _ => exact hxs rfl
      | inside _ h' => exact h'.ne_nil.1 rfl
  | fileFirst a b hys =>
      intro hgt
      cases hgt with
      | files h' => exact hys rfl
      | fileFirst _ _ hys' => exact hys' rfl
      | folders _ hys' _ => exact hys' rfl
      | inside _ h' => exact h'.ne_nil.2 rfl
  | folders hxs hys h =>
      intro hgt
      cases hgt with
      | files h' => exact hxs rfl
      | fileFirst _ _ hys' => exact hys rfl
      | folders _ _ h' => exact String.lt_irrefl _ (String.lt_trans h h')
      | inside _ h' => exact String.lt_irrefl _ h
  | inside a h ih =>
      intro hgt
      cases hgt with
      | files h' => exact h.ne_nil.1 rfl
      | fileFirst _ _ hys' => exact h.ne_nil.2 rfl
      | folders _ _ h' => exact String.lt_irrefl _ h'
      | inside _ h' => exact ih h'

theorem Earlier.ne (h : Earlier xs ys) : xs ≠ ys := by
  rintro rfl
  exact h.not_gt h

instance : Std.Asymm Earlier := ⟨fun _ _ => Earlier.not_gt⟩

/-- The last of several names is the name of a document. -/
def EndsWith (isDocument : String → Bool) (names : List String) : Prop :=
  ∃ name, names.getLast? = some name ∧ isDocument name = true

theorem endsWith_cons {isDocument : String → Bool} {name : String} (h : xs ≠ []) :
    EndsWith isDocument (name :: xs) ↔ EndsWith isDocument xs := by
  rw [EndsWith, EndsWith, List.getLast?_cons_of_ne_nil h]

/-! ## Sorting by name -/

section Sorting

variable {α β : Type} {entries : List (String × α)}

theorem sortByName_perm (entries : List (String × α)) : (sortByName entries).Perm entries :=
  List.mergeSort_perm _ _

theorem sortByName_map (entries : List (String × α)) (f : String × α → β) :
    sortByName (entries.map fun e => (e.1, f e)) = (sortByName entries).map fun e => (e.1, f e) :=
  (List.map_mergeSort (f := fun e : String × α => (e.1, f e)) fun _ _ _ _ => rfl).symm

/-- Different names ascend once they are sorted. -/
theorem pairwise_sortByName (h : (entries.map (·.1)).Nodup) :
    (sortByName entries).Pairwise fun a b => a.1 < b.1 := by
  have hle : (sortByName entries).Pairwise fun a b => a.1 ≤ b.1 := by
    refine (List.pairwise_mergeSort ?_ ?_ entries).imp of_decide_eq_true
    · intro a b c hab hbc
      exact decide_eq_true (String.le_trans (of_decide_eq_true hab) (of_decide_eq_true hbc))
    · intro a b
      rw [Bool.or_eq_true, decide_eq_true_eq, decide_eq_true_eq]
      exact String.le_total a.1 b.1
  have hne : (sortByName entries).Pairwise fun a b => a.1 ≠ b.1 :=
    List.pairwise_map.mp ((((sortByName_perm entries).map _).nodup_iff).mpr h)
  refine (hle.and hne).imp fun {a b} hab => ?_
  rw [← String.not_le]
  exact fun hge => hab.2 (String.le_antisymm hab.1 hge)

end Sorting

/-! ## Places of documents -/

namespace Tree

mutual

/-- The places of the documents in a tree, each as the names that lead to it. -/
def places (isDocument : String → Bool) : Tree → List (List String)
  | .file _ => []
  | .folder entries =>
    ((fileNames entries).filter isDocument).map ([·]) ++
      (sortByName (placesBelow isDocument entries)).flatMap fun e => e.2.map (e.1 :: ·)

/-- The folders among the entries of a folder, each with the places of its documents. -/
def placesBelow (isDocument : String → Bool) :
    List (String × Tree) → List (String × List (List String))
  | [] => []
  | (name, .folder inner) :: rest =>
    (name, places isDocument (.folder inner)) :: placesBelow isDocument rest
  | (_, .file _) :: rest => placesBelow isDocument rest

end

/-- The folders among the entries of a folder. -/
def subfolders (entries : List (String × Tree)) : List (String × Tree) :=
  entries.filter fun e => e.2 matches .folder _

variable {isDocument : String → Bool} {path name : String} {names : List String} {t t' : Tree}
  {entries : List (String × Tree)}

/-- What goes through entries and takes the folders only is a map of these. -/
theorem eq_map_subfolders {β : Type} {below : List (String × Tree) → List (String × β)}
    (f : String → Tree → β) (hnil : below [] = [])
    (hfolder : ∀ name inner rest, below ((name, .folder inner) :: rest) =
      (name, f name (.folder inner)) :: below rest)
    (hfile : ∀ name bytes rest, below ((name, .file bytes) :: rest) = below rest)
    (entries : List (String × Tree)) :
    below entries = (subfolders entries).map fun e => (e.1, f e.1 e.2) := by
  induction entries with
  | nil => exact hnil
  | cons e entries ih =>
      obtain ⟨name, inner⟩ := e
      cases inner with
      | file bytes =>
          rw [hfile, ih]
          rfl
      | folder inner =>
          rw [hfolder, ih]
          rfl

theorem documentsBelow_eq (entries : List (String × Tree)) :
    documentsBelow isDocument path entries =
      (subfolders entries).map fun e => (e.1, e.2.documents isDocument (join path e.1)) :=
  eq_map_subfolders (fun name t => t.documents isDocument (join path name)) rfl
    (fun _ _ _ => rfl) (fun _ _ _ => rfl) entries

theorem placesBelow_eq (entries : List (String × Tree)) :
    placesBelow isDocument entries =
      (subfolders entries).map fun e => (e.1, e.2.places isDocument) :=
  eq_map_subfolders (fun _ t => t.places isDocument) rfl (fun _ _ _ => rfl) (fun _ _ _ => rfl)
    entries

theorem documents_folder (entries : List (String × Tree)) :
    (Tree.folder entries).documents isDocument path =
      ((fileNames entries).filter isDocument).map (join path) ++
        (sortByName (subfolders entries)).flatMap fun e =>
          e.2.documents isDocument (join path e.1) := by
  rw [documents, documentsBelow_eq, sortByName_map, List.flatMap_map]

theorem places_folder (entries : List (String × Tree)) :
    (Tree.folder entries).places isDocument =
      ((fileNames entries).filter isDocument).map ([·]) ++
        (sortByName (subfolders entries)).flatMap fun e =>
          (e.2.places isDocument).map (e.1 :: ·) := by
  rw [places, placesBelow_eq, sortByName_map, List.flatMap_map]

theorem mem_subfolders {e : String × Tree} :
    e ∈ sortByName (subfolders entries) ↔ e ∈ entries ∧ ∃ inner, e.2 = .folder inner := by
  rw [(sortByName_perm _).mem_iff, subfolders, List.mem_filter]
  obtain ⟨name, t⟩ := e
  cases t <;> simp

theorem mem_fileNames : name ∈ fileNames entries ↔ ∃ bytes, (name, .file bytes) ∈ entries := by
  rw [fileNames, List.mem_map]
  constructor
  · rintro ⟨⟨k, t⟩, he, rfl⟩
    rw [(sortByName_perm _).mem_iff, List.mem_filter] at he
    obtain ⟨he, hfile⟩ := he
    cases t with
    | file bytes => exact ⟨bytes, he⟩
    | folder inner => cases hfile
  · rintro ⟨bytes, he⟩
    refine ⟨(name, .file bytes), ?_, rfl⟩
    rw [(sortByName_perm _).mem_iff, List.mem_filter]
    exact ⟨he, rfl⟩

/-- The paths of the documents are those of their places. -/
theorem documents_eq (t : Tree) (path : String) :
    t.documents isDocument path = (t.places isDocument).map (joinAll path) := by
  induction t using induct generalizing path with
  | hfile bytes => rw [documents, places, List.map_nil]
  | hfolder entries ih =>
      rw [documents_folder, places_folder, List.map_append, List.map_map, List.map_flatMap]
      congr 1
      refine List.flatMap_congr fun e he => ?_
      rw [ih e (mem_subfolders.mp he).1, List.map_map]
      rfl

theorem mem_places_folder :
    names ∈ (Tree.folder entries).places isDocument ↔
      (∃ name bytes, names = [name] ∧ (name, .file bytes) ∈ entries ∧ isDocument name = true)
        ∨ ∃ name inner rest, names = name :: rest ∧ (name, .folder inner) ∈ entries
          ∧ rest ∈ (Tree.folder inner).places isDocument := by
  rw [places_folder, List.mem_append, List.mem_map, List.mem_flatMap]
  refine or_congr ⟨?_, ?_⟩ ⟨?_, ?_⟩
  · rintro ⟨name, hname, rfl⟩
    obtain ⟨hfile, hdocument⟩ := List.mem_filter.mp hname
    obtain ⟨bytes, he⟩ := mem_fileNames.mp hfile
    exact ⟨name, bytes, rfl, he, hdocument⟩
  · rintro ⟨name, bytes, rfl, he, hdocument⟩
    exact ⟨name, List.mem_filter.mpr ⟨mem_fileNames.mpr ⟨bytes, he⟩, hdocument⟩, rfl⟩
  · rintro ⟨⟨name, t⟩, he, hnames⟩
    obtain ⟨he, inner, rfl⟩ := mem_subfolders.mp he
    obtain ⟨rest, hrest, rfl⟩ := List.mem_map.mp hnames
    exact ⟨name, inner, rest, rfl, he, hrest⟩
  · rintro ⟨name, inner, rest, rfl, he, hrest⟩
    exact ⟨(name, .folder inner), mem_subfolders.mpr ⟨he, inner, rfl⟩, List.mem_map_of_mem hrest⟩

/-- The places are those of the files whose name is that of a document. -/
theorem mem_places : names ∈ t.places isDocument ↔
    (∃ bytes, t.Leads names (.file bytes)) ∧ EndsWith isDocument names := by
  induction t using induct generalizing names with
  | hfile bytes =>
      rw [places]
      refine iff_of_false List.not_mem_nil ?_
      rintro ⟨⟨bytes', hleads⟩, name, hlast, -⟩
      cases hleads
      cases hlast
  | hfolder entries ih =>
      rw [mem_places_folder]
      constructor
      · rintro (⟨name, bytes, rfl, he, hdocument⟩ | ⟨name, inner, rest, rfl, he, hrest⟩)
        · exact ⟨⟨bytes, .inside he (.here _)⟩, name, rfl, hdocument⟩
        · obtain ⟨⟨bytes, hleads⟩, hends⟩ := (ih _ he).mp hrest
          have hne : rest ≠ [] := by
            rintro rfl
            obtain ⟨name, hlast, -⟩ := hends
            cases hlast
          exact ⟨⟨bytes, .inside he hleads⟩, (endsWith_cons hne).mpr hends⟩
      · rintro ⟨⟨bytes, hleads⟩, hends⟩
        cases hleads with
        | @inside _ name inner _ rest he hleads =>
            cases inner with
            | file bytes' =>
                cases hleads
                obtain ⟨_, hlast, hdocument⟩ := hends
                cases hlast
                exact Or.inl ⟨name, bytes, rfl, he, hdocument⟩
            | folder inner =>
                have hne : rest ≠ [] := by
                  rintro rfl
                  cases hleads
                have hrest := (ih _ he).mpr ⟨⟨bytes, hleads⟩, (endsWith_cons hne).mp hends⟩
                exact Or.inr ⟨name, inner, rest, rfl, he, hrest⟩

theorem ne_nil_of_mem_places (h : names ∈ t.places isDocument) : names ≠ [] := by
  rintro rfl
  obtain ⟨-, name, hlast, -⟩ := mem_places.mp h
  cases hlast

/-- The places ascend. -/
theorem pairwise_places (h : t.Proper) : (t.places isDocument).Pairwise Earlier := by
  induction t using induct with
  | hfile bytes =>
      rw [places]
      exact .nil
  | hfolder entries ih =>
      have hdistinct : ∀ p : String × Tree → Bool, ((entries.filter p).map (·.1)).Nodup :=
        fun p => h.distinct.sublist (List.filter_sublist.map _)
      rw [places_folder, List.pairwise_append, List.pairwise_map, List.pairwise_flatMap]
      refine ⟨?_, ⟨?_, ?_⟩, ?_⟩
      · have hnames : (fileNames entries).Pairwise (· < ·) :=
          List.pairwise_map.mpr (pairwise_sortByName (hdistinct _))
        exact (hnames.filter _).imp .files
      · intro e he
        have hinner := ih e (mem_subfolders.mp he).1 (h.entry (mem_subfolders.mp he).1).2
        exact List.pairwise_map.mpr (hinner.imp (.inside e.1))
      · refine (pairwise_sortByName (hdistinct _)).imp fun {e e'} hlt ns hns ms hms => ?_
        obtain ⟨xs, hxs, rfl⟩ := List.mem_map.mp hns
        obtain ⟨ys, hys, rfl⟩ := List.mem_map.mp hms
        exact .folders (ne_nil_of_mem_places hxs) (ne_nil_of_mem_places hys) hlt
      · intro ns hns ms hms
        obtain ⟨a, -, rfl⟩ := List.mem_map.mp hns
        obtain ⟨e, -, hbelow⟩ := List.mem_flatMap.mp hms
        obtain ⟨ys, hys, rfl⟩ := List.mem_map.mp hbelow
        exact .fileFirst a e.1 (ne_nil_of_mem_places hys)

/-- Each document has a path of its own. -/
theorem nodup_documents (h : t.Proper) (path : String) :
    ((t.places isDocument).map (joinAll path)).Nodup := by
  have hnames : ∀ ns ∈ t.places isDocument, ∀ name ∈ ns, IsName name := by
    intro ns hns
    obtain ⟨⟨bytes, hleads⟩, -⟩ := mem_places.mp hns
    exact h.leads hleads
  have hplaces : (t.places isDocument).Nodup := (pairwise_places h).imp Earlier.ne
  exact hplaces.map_on fun ns hns ms hms => joinAll_inj (hnames ns hns) (hnames ms hms)

/-- The order of entries does not matter. -/
theorem Relisted.documents (h : t.Relisted t') (ht : t.Proper) (path : String) :
    t'.documents isDocument path = t.documents isDocument path := by
  have hmem : ∀ names, names ∈ t'.places isDocument ↔ names ∈ t.places isDocument := fun names => by
    rw [mem_places, mem_places]
    exact and_congr_left fun _ => exists_congr fun bytes => ⟨h.symm.leads_file, h.leads_file⟩
  rw [documents_eq, documents_eq,
    (pairwise_places (h.proper ht)).eq_of_mem_iff (pairwise_places ht) hmem]

end Tree

/-! ## What paths stand for -/

/-- The paths for which a path stands. -/
inductive StandsFor (files : Files) (isDocument : String → Bool) (path : String) :
    List String → Prop where
  /-- what does not lead to a folder stands for itself, whatever it is called -/
  | itself (hfind : ∀ entries, files.find path ≠ .ok (.folder entries)) :
      StandsFor files isDocument path [path]
  /-- a folder stands for the documents below it, each once and all in order -/
  | below {entries : List (String × Tree)} {places : List (List String)}
      (hfind : files.find path = .ok (.folder entries))
      (hplaces : ∀ names, names ∈ places ↔
        (∃ bytes, (Tree.folder entries).Leads names (.file bytes)) ∧ EndsWith isDocument names)
      (hascend : places.Pairwise Earlier) (honce : (places.map (joinAll path)).Nodup)
      (hfound : ∀ names bytes, (Tree.folder entries).Leads names (.file bytes) →
        files.find (joinAll path names) = .ok (.file bytes)) :
      StandsFor files isDocument path (places.map (joinAll path))

section

variable {root root' : Tree}

theorem standsFor_documentsAt (hroot : root.Proper) (home : List String)
    (isDocument : String → Bool) (path : String) :
    StandsFor (ofTree root home) isDocument path
      ((ofTree root home).documentsAt isDocument path) := by
  unfold documentsAt
  split
  next entries hfind =>
    have hproper := proper_of_find hroot hfind
    rw [Tree.documents_eq]
    refine .below hfind (fun names => Tree.mem_places) (Tree.pairwise_places hproper)
      (Tree.nodup_documents hproper path) ?_
    intro names bytes hleads
    exact find_joinAll hroot hfind hleads
  next hfind => exact .itself hfind

theorem documentsAt_relisted (h : root.Relisted root') (hroot : root.Proper) (home : List String)
    (isDocument : String → Bool) (path : String) :
    (ofTree root' home).documentsAt isDocument path =
      (ofTree root home).documentsAt isDocument path := by
  unfold documentsAt
  rcases (alike_find h hroot home path).cases with
    ⟨fault, hfind, hfind'⟩ | ⟨t, t', ht, hfind, hfind'⟩
  · rw [hfind, hfind']
  · rw [hfind, hfind']
    cases ht with
    | file bytes => rfl
    | folder hnames hinner =>
        exact (Tree.Relisted.folder hnames hinner).documents (proper_of_find hroot hfind) path

/-- **Every document once and in a fixed order.** Paths stand for what each of them stands for,
one after the other, and this does not depend on how folders list their entries. -/
theorem documents_once_in_order (hroot : root.Proper) (home : List String)
    (isDocument : String → Bool) (paths : List String) :
    (∃ parts, (ofTree root home).documents isDocument paths = parts.flatten
        ∧ List.Forall₂ (StandsFor (ofTree root home) isDocument) paths parts)
      ∧ ∀ root', root.Relisted root' →
          (ofTree root' home).documents isDocument paths =
            (ofTree root home).documents isDocument paths := by
  constructor
  · refine ⟨paths.map ((ofTree root home).documentsAt isDocument), List.flatMap_def, ?_⟩
    rw [List.forall₂_map_right_iff, List.forall₂_same]
    exact fun path _ => standsFor_documentsAt hroot home isDocument path
  · intro root' h
    exact List.flatMap_congr fun path _ => documentsAt_relisted h hroot home isDocument path

example : (Tree.folder [("b", .folder [("c.md", .file []), ("a.txt", .file [])]),
      ("z.md", .file []), ("B", .folder [("y.md", .file [])])]).documents
    Settings.isDocument "./d" = ["./d/z.md", "./d/B/y.md", "./d/b/c.md"] := by
  cbv

/-- Two folders, both listed in one order and in the other. -/
theorem documents_once_in_order_swapped :
    let root := Tree.folder [("b", .folder [("c.md", .file []), ("a.md", .file [])]),
      ("z.md", .file [])]
    let root' := Tree.folder [("z.md", .file []),
      ("b", .folder [("a.md", .file []), ("c.md", .file [])])]
    root.Proper ∧ root.Relisted root'
      ∧ (ofTree root' []).documents Settings.isDocument ["."] =
          (ofTree root []).documents Settings.isDocument ["."]
      ∧ ∃ parts, (ofTree root []).documents Settings.isDocument ["."] = parts.flatten
          ∧ List.Forall₂ (StandsFor (ofTree root []) Settings.isDocument) ["."] parts := by
  intro root root'
  have hfiles : ∀ a b, IsName a → IsName b → a ≠ b →
      (Tree.folder [(a, .file []), (b, .file [])]).Proper := by
    intro a b ha hb hne
    refine .folder (by simp [ha, hb]) (by simp [hne]) ?_
    exact List.forall_mem_cons.mpr ⟨.file [], List.forall_mem_cons.mpr ⟨.file [], nofun⟩⟩
  have hproper : root.Proper := by
    refine .folder (by decide) (by decide) ?_
    have hinner := hfiles "c.md" "a.md" (by decide) (by decide) (by decide)
    exact List.forall_mem_cons.mpr ⟨hinner, List.forall_mem_cons.mpr ⟨.file [], nofun⟩⟩
  have hrelisted : root.Relisted root' := by
    refine .folder (by decide) fun name t t' ht ht' => ?_
    simp only [List.mem_cons, Prod.mk.injEq, List.not_mem_nil, or_false] at ht ht'
    rcases ht with ⟨rfl, rfl⟩ | ⟨rfl, rfl⟩
    · obtain ⟨hname, -⟩ | ⟨-, rfl⟩ := ht'
      · exact absurd hname (by decide)
      · refine .folder (by decide) fun name t t' ht ht' => ?_
        simp only [List.mem_cons, Prod.mk.injEq, List.not_mem_nil, or_false] at ht ht'
        grind [Tree.Relisted]
    · obtain ⟨-, rfl⟩ | ⟨hname, -⟩ := ht'
      · exact .file []
      · exact absurd hname (by decide)
  obtain ⟨hparts, hsame⟩ := documents_once_in_order hproper [] Settings.isDocument ["."]
  exact ⟨hproper, hrelisted, hsame root' hrelisted, hparts⟩

end

end Headline.Files
