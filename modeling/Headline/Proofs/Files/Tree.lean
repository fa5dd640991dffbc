import Headline.Files.Tree
import Mathlib.Data.List.Basic

/-!
# Trees that a file system can hold

In a tree that a file system can hold each folder has different names, none of which means
something else in a path (`Tree.Proper`). Then names that lead from a place to another
(`Tree.Leads`) are followed there.

The order in which a folder lists its entries is not part of what it holds. Trees that differ in
it only (`Tree.Relisted`) hold the same files under the same names, and what is found in them
differs in this order only. For both, what one name does is said first (`Tree.step`), and several
names are a matter of induction.
-/

namespace Headline.Files

/-- What can be the name of an entry. -/
structure IsName (name : String) : Prop where
  nonempty : name ≠ ""
  noDots : name ≠ "." ∧ name ≠ ".."
  noSlash : '/' ∉ name.toList
  noNul : Char.ofNat 0 ∉ name.toList

instance (name : String) : Decidable (IsName name) :=
  decidable_of_iff (name ≠ "" ∧ (name ≠ "." ∧ name ≠ "..") ∧ '/' ∉ name.toList
      ∧ Char.ofNat 0 ∉ name.toList)
    ⟨fun ⟨hnonempty, hdots, hslash, hnul⟩ => ⟨hnonempty, hdots, hslash, hnul⟩,
      fun h => ⟨h.nonempty, h.noDots, h.noSlash, h.noNul⟩⟩

namespace Tree

/-- A tree that a file system can hold. -/
inductive Proper : Tree → Prop where
  | file (bytes : List UInt8) : Proper (.file bytes)
  | folder {entries : List (String × Tree)} (hnames : ∀ e ∈ entries, IsName e.1)
      (hdistinct : (entries.map (·.1)).Nodup) (hinner : ∀ e ∈ entries, Proper e.2) :
      Proper (.folder entries)

/-- Names lead from a tree to what stands below it. -/
inductive Leads : Tree → List String → Tree → Prop where
  | here (t : Tree) : Leads t [] t
  | inside {entries : List (String × Tree)} {name : String} {inner t : Tree} {names : List String}
      (hentry : (name, inner) ∈ entries) (hrest : Leads inner names t) :
      Leads (.folder entries) (name :: names) t

/-- Two trees that differ in the order in which folders list their entries. -/
inductive Relisted : Tree → Tree → Prop where
  | file (bytes : List UInt8) : Relisted (.file bytes) (.file bytes)
  | folder {entries entries' : List (String × Tree)}
      (hnames : (entries.map (·.1)).Perm (entries'.map (·.1)))
      (hinner : ∀ name t t', (name, t) ∈ entries → (name, t') ∈ entries' → Relisted t t') :
      Relisted (.folder entries) (.folder entries')

variable {t t' place place' : Tree} {above above' : List Tree}
  {entries entries' : List (String × Tree)} {name : String} {names : List String}

theorem sizeOf_lt_of_mem {e : String × Tree} (h : e ∈ entries) :
    sizeOf e.2 < sizeOf (Tree.folder entries) := by
  have hlt := List.sizeOf_lt_of_mem h
  obtain ⟨name, t⟩ := e
  simp only [Prod.mk.sizeOf_spec, folder.sizeOf_spec] at *
  omega

/-- What holds of files, and of a folder if it holds of its entries, holds of all trees. -/
theorem induct {motive : Tree → Prop} (hfile : ∀ bytes, motive (.file bytes))
    (hfolder : ∀ entries, (∀ e ∈ entries, motive e.2) → motive (.folder entries)) :
    ∀ t : Tree, motive t
  | .file bytes => hfile bytes
  | .folder entries => hfolder entries fun e _he => induct hfile hfolder e.2
termination_by t => sizeOf t
decreasing_by exact sizeOf_lt_of_mem _he

/-! ## Proper trees -/

theorem lookup_eq_some_iff (h : (entries.map (·.1)).Nodup) :
    entries.lookup name = some t ↔ (name, t) ∈ entries := by
  induction entries with
  | nil => simp
  | cons e entries ih =>
      obtain ⟨k, u⟩ := e
      obtain ⟨hk, hrest⟩ := List.nodup_cons.mp h
      rw [List.lookup_cons, List.mem_cons, Prod.mk.injEq]
      by_cases hname : name = k
      · subst hname
        have hnot : (name, t) ∉ entries := fun hmem => hk (List.mem_map.mpr ⟨_, hmem, rfl⟩)
        simp [hnot, eq_comm]
      · rw [beq_eq_false_iff_ne.mpr hname]
        simp only [hname, false_and, false_or]
        exact ih hrest

namespace Proper

theorem distinct (h : Proper (.folder entries)) : (entries.map (·.1)).Nodup := by
  cases h with
  | folder hnames hdistinct hinner => exact hdistinct

theorem entry (h : Proper (.folder entries)) (he : (name, t) ∈ entries) :
    IsName name ∧ Proper t := by
  cases h with
  | folder hnames hdistinct hinner => exact ⟨hnames _ he, hinner _ he⟩

theorem lookup (h : Proper (.folder entries)) :
    entries.lookup name = some t ↔ (name, t) ∈ entries :=
  lookup_eq_some_iff h.distinct

/-- Only names of entries lead anywhere. -/
theorem leads (h : t.Proper) (hleads : t.Leads names t') : ∀ name ∈ names, IsName name := by
  induction hleads with
  | here t => exact nofun
  | inside hentry hrest ih =>
      obtain ⟨hname, hinner⟩ := h.entry hentry
      exact List.forall_mem_cons.mpr ⟨hname, ih hinner⟩

end Proper

/-! ## Following names -/

/-- Where one name leads from a folder, with the folders around the place. -/
def step (above : List Tree) (entries : List (String × Tree)) (name : String) :
    Except Fault (List Tree × Tree) :=
  if name == "." then .ok (above, .folder entries)
  else if name == ".." then .ok (above.tail, above.headD (.folder entries))
  else
    match entries.lookup name with
    | some inner => .ok (.folder entries :: above, inner)
    | none => .error .notFound

/-- Names are followed one after the other. -/
theorem follow_cons (above : List Tree) (entries : List (String × Tree)) (name : String)
    (names : List String) :
    follow above (.folder entries) (name :: names) =
      match step above entries name with
      | .ok (above, place) => follow above place names
      | .error fault => .error fault := by
  rw [follow.eq_def, step]
  dsimp only
  split
  next => rfl
  next =>
    split
    next => cases above <;> rfl
    next =>
      cases entries.lookup name <;> rfl

theorem step_entry (above : List Tree) (hname : IsName name)
    (hentry : entries.lookup name = some t) :
    step above entries name = .ok (.folder entries :: above, t) := by
  rw [step, if_neg (by simp [hname.noDots.1]), if_neg (by simp [hname.noDots.2]), hentry]

/-- A step stays, goes out or goes in. -/
theorem step_cases (h : step above entries name = .ok (above', place)) :
    (above' = above ∧ place = .folder entries)
      ∨ (above' = above.tail ∧ place = above.headD (.folder entries))
      ∨ above' = .folder entries :: above ∧ entries.lookup name = some place := by
  unfold step at h
  split at h
  · cases h
    exact Or.inl ⟨rfl, rfl⟩
  · split at h
    · cases h
      exact Or.inr (Or.inl ⟨rfl, rfl⟩)
    · split at h
      next inner hentry =>
        cases h
        exact Or.inr (Or.inr ⟨rfl, hentry⟩)
      next => cases h

/-- Names that lead somewhere are followed there, whatever folders are around. -/
theorem follow_of_leads (h : t.Proper) (hleads : t.Leads names t') (above : List Tree) :
    follow above t names = .ok t' := by
  induction hleads generalizing above with
  | here t => rfl
  | inside hentry hrest ih =>
      obtain ⟨hname, hinner⟩ := h.entry hentry
      rw [follow_cons, step_entry above hname (h.lookup.mpr hentry)]
      exact ih hinner _

/-- What is found by several names is found from where the first one leads. -/
theorem exists_step_of_follow (h : follow above place (name :: names) = .ok t) :
    ∃ entries above' place', place = .folder entries
      ∧ step above entries name = .ok (above', place') ∧ follow above' place' names = .ok t := by
  cases place with
  | file bytes => cases h
  | folder entries =>
      rw [follow_cons] at h
      cases hstep : step above entries name with
      | error fault =>
          rw [hstep] at h
          cases h
      | ok s =>
          rw [hstep] at h
          exact ⟨entries, s.1, s.2, rfl, hstep, h⟩

/-- Names behind others are followed from where these lead. -/
theorem follow_append (h : follow above place names = .ok t) :
    ∃ around, ∀ more, follow above place (names ++ more) = follow around t more := by
  induction names generalizing above place with
  | nil =>
      cases h
      exact ⟨above, fun more => rfl⟩
  | cons name names ih =>
      obtain ⟨entries, above', place', rfl, hstep, hrest⟩ := exists_step_of_follow h
      obtain ⟨around, hmore⟩ := ih hrest
      refine ⟨around, fun more => ?_⟩
      rw [List.cons_append, follow_cons, hstep]
      exact hmore more

/-- Folders around a place, and the place, that a file system can hold. -/
structure AllProper (above : List Tree) (place : Tree) : Prop where
  place : place.Proper
  above : ∀ u ∈ above, u.Proper

theorem AllProper.step (h : AllProper above (.folder entries))
    (hstep : step above entries name = .ok (above', place)) : AllProper above' place := by
  rcases step_cases hstep with ⟨rfl, rfl⟩ | ⟨rfl, rfl⟩ | ⟨rfl, hentry⟩
  · exact h
  · cases above with
    | nil => exact h
    | cons outer above =>
        obtain ⟨houter, habove⟩ := List.forall_mem_cons.mp h.above
        exact ⟨houter, habove⟩
  · refine ⟨(h.place.entry (h.place.lookup.mp hentry)).2, ?_⟩
    exact List.forall_mem_cons.mpr ⟨h.place, h.above⟩

theorem AllProper.follow (h : AllProper above place) (hfollow : follow above place names = .ok t) :
    t.Proper := by
  induction names generalizing above place with
  | nil =>
      cases hfollow
      exact h.place
  | cons name names ih =>
      obtain ⟨entries, above', place', rfl, hstep, hrest⟩ := exists_step_of_follow hfollow
      exact ih (h.step hstep) hrest

/-! ## Other orders of entries -/

namespace Relisted

theorem mem (h : Relisted (.folder entries) (.folder entries')) (he : (name, t) ∈ entries) :
    ∃ t', (name, t') ∈ entries' ∧ Relisted t t' := by
  cases h with
  | folder hnames hinner =>
      have hname : name ∈ entries.map (·.1) := List.mem_map.mpr ⟨_, he, rfl⟩
      obtain ⟨⟨k, t'⟩, he', rfl⟩ := List.mem_map.mp (hnames.mem_iff.mp hname)
      exact ⟨t', he', hinner _ t t' he he'⟩

theorem symm (h : Relisted t t') : Relisted t' t := by
  induction h with
  | file bytes => exact .file bytes
  | folder hnames hinner ih =>
      exact .folder hnames.symm fun name t t' he he' => ih name t' t he' he

theorem leads_file {bytes : List UInt8} (h : Relisted t t') (hleads : t.Leads names (.file bytes)) :
    t'.Leads names (.file bytes) := by
  generalize hfile : Tree.file bytes = u at hleads
  induction hleads generalizing t' with
  | here t =>
      subst hfile
      cases h
      exact .here _
  | inside hentry hrest ih =>
      cases h with
      | folder hnames hinner =>
          obtain ⟨t', he', hinner'⟩ := (Relisted.folder hnames hinner).mem hentry
          exact .inside he' (ih hinner' hfile)

theorem proper (h : Relisted t t') (ht : t.Proper) : t'.Proper := by
  induction h with
  | file bytes => exact .file bytes
  | @folder entries entries' hnames hinner ih =>
      have hentry : ∀ e ∈ entries', IsName e.1 ∧ e.2.Proper := by
        rintro ⟨name, u⟩ he
        obtain ⟨u', he', -⟩ := (Relisted.folder hnames hinner).symm.mem he
        obtain ⟨hname, hu'⟩ := ht.entry he'
        exact ⟨hname, ih name u' u he' he hu'⟩
      exact .folder (fun e he => (hentry e he).1) (hnames.nodup_iff.mp ht.distinct)
        fun e he => (hentry e he).2

end Relisted

/-- What is found in trees that differ in the order of entries. -/
inductive Alike : Except Fault Tree → Except Fault Tree → Prop where
  | fault (f : Fault) : Alike (.error f) (.error f)
  | tree {t t' : Tree} (h : Relisted t t') : Alike (.ok t) (.ok t')

theorem Alike.cases {x y : Except Fault Tree} (h : Alike x y) :
    (∃ f, x = .error f ∧ y = .error f) ∨ ∃ t t', Relisted t t' ∧ x = .ok t ∧ y = .ok t' := by
  cases h with
  | fault f => exact Or.inl ⟨f, rfl, rfl⟩
  | tree h => exact Or.inr ⟨_, _, h, rfl, rfl⟩

/-- A step from a place and from the same place listed in another order. -/
theorem Relisted.step (hplace : Relisted (.folder entries) (.folder entries'))
    (habove : List.Forall₂ Relisted above above')
    (h : Proper (.folder entries)) (name : String) :
    (∃ fault, Tree.step above entries name = .error fault
        ∧ Tree.step above' entries' name = .error fault)
      ∨ ∃ around around' t t', Tree.step above entries name = .ok (around, t)
        ∧ Tree.step above' entries' name = .ok (around', t')
        ∧ List.Forall₂ Relisted around around' ∧ Relisted t t' := by
  have h' := hplace.proper h
  unfold Tree.step
  split
  · exact Or.inr ⟨_, _, _, _, rfl, rfl, habove, hplace⟩
  · split
    · refine Or.inr ⟨_, _, _, _, rfl, rfl, ?_⟩
      cases habove with
      | nil => exact ⟨.nil, hplace⟩
      | cons houter hrest => exact ⟨hrest, houter⟩
    · cases hentry : entries.lookup name with
      | some t =>
          obtain ⟨t', he', ht⟩ := hplace.mem (h.lookup.mp hentry)
          rw [h'.lookup.mpr he']
          exact Or.inr ⟨_, _, _, _, rfl, rfl, .cons hplace habove, ht⟩
      | none =>
          cases hentry' : entries'.lookup name with
          | none => exact Or.inl ⟨_, rfl, rfl⟩
          | some t' =>
              obtain ⟨t, he, -⟩ := hplace.symm.mem (h'.lookup.mp hentry')
              rw [h.lookup.mpr he] at hentry
              cases hentry

theorem Relisted.follow (hplace : Relisted place place')
    (habove : List.Forall₂ Relisted above above') (h : AllProper above place)
    (names : List String) : Alike (follow above place names) (follow above' place' names) := by
  induction names generalizing above above' place place' with
  | nil => exact .tree hplace
  | cons name names ih =>
      cases hplace with
      | file bytes => exact .fault _
      | folder hnames hinner =>
          have hplace := Relisted.folder hnames hinner
          rw [follow_cons, follow_cons]
          rcases hplace.step habove h.place name with
            ⟨fault, hstep, hstep'⟩ | ⟨around, around', t, t', hstep, hstep', haround, ht⟩
          · rw [hstep, hstep']
            exact .fault fault
          · rw [hstep, hstep']
            exact ih ht haround (h.step hstep)

end Tree

end Headline.Files
