import Headline.Proofs.Files.Tree

/-!
# Paths put together name by name

A path to which names are joined is cut at the same names again when it is followed
(`names_joinAll`). So different names joined to a path make different paths, and if the path leads
to a folder and names lead from there to a file, the joined path leads to this file
(`find_joinAll`).
-/

namespace Headline.Files

/-- A path several names longer. -/
def joinAll (path : String) (names : List String) : String := names.foldl join path

variable {path name : String} {ns ms : List String} {cs ds : List Char}

/-! ## Joining a name -/

/-- A name is put behind the path, with a slash in between unless one is there already or the
path is empty. -/
theorem join_cases (path name : String) :
    path = "" ∧ join path name = name
      ∨ (∃ cs, path.toList = cs ++ ['/']) ∧ join path name = path ++ name
      ∨ join path name = path ++ "/" ++ name := by
  rw [join, wantsFolder]
  split
  next h =>
    rw [Bool.or_eq_true, String.isEmpty_iff, beq_iff_eq, List.getLast?_eq_some_iff] at h
    rcases h with rfl | hslash
    · exact Or.inl ⟨rfl, String.empty_append⟩
    · exact Or.inr (Or.inl ⟨hslash, rfl⟩)
  next => exact Or.inr (Or.inr rfl)

/-- What stands at the end of a joined path. -/
theorem join_eq_append (path name : String) :
    ∃ front, (join path name).toList = front ++ name.toList
      ∧ (∀ c ∈ front, c ∈ path.toList ∨ c = '/')
      ∧ (path ≠ "" → front.head? = path.toList.head?) := by
  rcases join_cases path name with ⟨rfl, hjoin⟩ | ⟨-, hjoin⟩ | hjoin
  · exact ⟨[], by rw [hjoin]; rfl, nofun, fun h => absurd rfl h⟩
  · exact ⟨path.toList, by rw [hjoin, String.toList_append], fun c hc => Or.inl hc, fun _ => rfl⟩
  · refine ⟨path.toList ++ ['/'], by rw [hjoin, String.toList_append, String.toList_append]; rfl,
      fun c hc => ?_, fun h => ?_⟩
    · rw [List.mem_append, List.mem_singleton] at hc
      exact hc
    · rw [List.head?_append_of_ne_nil]
      simpa using h

theorem IsName.toList_ne_nil (h : IsName name) : name.toList ≠ [] := by
  simpa using h.nonempty

/-! ## Cutting a path -/

theorem go_of_notMem (h : '/' ∉ cs) : names.go cs = [cs] := by
  induction cs with
  | nil => rfl
  | cons c cs ih =>
      rw [List.mem_cons, not_or] at h
      obtain ⟨hc, hcs⟩ := h
      rw [names.go, if_neg (by simp [Ne.symm hc]), ih hcs]

theorem go_ne_nil (cs : List Char) : names.go cs ≠ [] := by
  cases cs with
  | nil => exact List.cons_ne_nil _ _
  | cons c cs =>
      rw [names.go]
      split
      · exact List.cons_ne_nil _ _
      · split <;> exact List.cons_ne_nil _ _

/-- The parts on both sides of a slash. -/
theorem go_append_slash (cs ds : List Char) :
    names.go (cs ++ '/' :: ds) = names.go cs ++ names.go ds := by
  induction cs with
  | nil => rfl
  | cons c cs ih =>
      obtain ⟨part, parts, hparts⟩ := List.exists_cons_of_ne_nil (go_ne_nil cs)
      rw [List.cons_append, names.go, names.go, ih, hparts]
      split <;> rfl

/-- A joined name is the last one of the path. -/
theorem names_join (h : IsName name) : names (join path name) = names path ++ [name] := by
  have hname : names.go name.toList = [name.toList] := go_of_notMem h.noSlash
  have hkept : (!name.toList.isEmpty) = true := by simp [h.nonempty]
  rcases join_cases path name with ⟨rfl, hjoin⟩ | ⟨⟨cs, hcs⟩, hjoin⟩ | hjoin
  · rw [hjoin, names, names, hname]
    simp [hkept, names.go]
  · have hpath : (path ++ name).toList = cs ++ '/' :: name.toList := by
      rw [String.toList_append, hcs, List.append_assoc]
      rfl
    have hcut : names.go path.toList = names.go cs ++ [[]] := by
      rw [hcs, go_append_slash]
      rfl
    rw [hjoin, names, names, hpath, go_append_slash, hname, hcut]
    simp [hkept]
  · have hpath : (path ++ "/" ++ name).toList = path.toList ++ '/' :: name.toList := by
      rw [String.toList_append, String.toList_append, List.append_assoc]
      rfl
    rw [hjoin, names, names, hpath, go_append_slash, hname]
    simp [hkept]

/-! ## Joining names -/

theorem names_joinAll (h : ∀ name ∈ ns, IsName name) :
    names (joinAll path ns) = names path ++ ns := by
  induction ns generalizing path with
  | nil => rw [joinAll, List.foldl_nil, List.append_nil]
  | cons name ns ih =>
      obtain ⟨hname, hns⟩ := List.forall_mem_cons.mp h
      have hrest : names (joinAll (join path name) ns) = names (join path name) ++ ns := ih hns
      rw [names_join hname, List.append_assoc] at hrest
      exact hrest

/-- Names can be told from the path to which they are joined. -/
theorem joinAll_inj (hns : ∀ name ∈ ns, IsName name) (hms : ∀ name ∈ ms, IsName name)
    (h : joinAll path ns = joinAll path ms) : ns = ms := by
  have hnames := congrArg names h
  rw [names_joinAll hns, names_joinAll hms] at hnames
  exact List.append_cancel_left hnames

/-- A path that goes on from another: it starts as that one does, and can be looked up. -/
structure Continues (path longer : String) : Prop where
  nonempty : longer ≠ ""
  head : longer.toList.head? = path.toList.head?
  noNul : Char.ofNat 0 ∉ longer.toList

theorem Continues.join {longer : String} (h : Continues path longer) (hname : IsName name) :
    Continues path (join longer name) := by
  obtain ⟨front, heq, hfront, hhead⟩ := join_eq_append longer name
  have hhead := hhead h.nonempty
  have hne : front ≠ [] := fun hnil => by
    rw [hnil, eq_comm, List.head?_nil, List.head?_eq_none_iff, String.toList_eq_nil_iff] at hhead
    exact h.nonempty hhead
  refine ⟨fun hempty => ?_, ?_, fun hnul => ?_⟩
  · rw [hempty, String.toList_empty] at heq
    exact hne (List.append_eq_nil_iff.mp heq.symm).1
  · rw [heq, List.head?_append_of_ne_nil _ hne, hhead, h.head]
  · rw [heq, List.mem_append] at hnul
    rcases hnul with hnul | hnul
    · rcases hfront _ hnul with hlonger | hslash
      · exact h.noNul hlonger
      · exact absurd hslash (by decide)
    · exact hname.noNul hnul

theorem Continues.joinAll {longer : String} (h : Continues path longer)
    (hns : ∀ name ∈ ns, IsName name) : Continues path (joinAll longer ns) := by
  induction ns generalizing longer with
  | nil => exact h
  | cons name ns ih =>
      obtain ⟨hname, hns⟩ := List.forall_mem_cons.mp hns
      exact ih (h.join hname) hns

/-- A joined path does not end with a slash. -/
theorem wantsFolder_joinAll (hns : ∀ name ∈ ns, IsName name) (hne : ns ≠ []) :
    wantsFolder (joinAll path ns) = false := by
  obtain ⟨init, name, rfl⟩ := (List.eq_nil_or_concat' ns).resolve_left hne
  have hname := hns name (List.mem_append_right _ (List.mem_singleton_self name))
  obtain ⟨front, heq, -⟩ := join_eq_append (joinAll path init) name
  rw [joinAll, List.foldl_append]
  show wantsFolder (Files.join (joinAll path init) name) = false
  rw [wantsFolder, heq, List.getLast?_append_of_ne_nil _ hname.toList_ne_nil, beq_eq_false_iff_ne]
  exact fun hslash => hname.noSlash (List.mem_of_getLast? hslash)

/-! ## What is found at a path -/

/-- The names that are followed from the root to what is at a path. -/
def route (home : List String) (path : String) : List String :=
  if path.toList.head? == some '/' then names path else home ++ names path

variable {root root' t : Tree} {home : List String} {entries : List (String × Tree)}

/-- What is found at a path is found by its names. -/
theorem follow_of_find (h : (ofTree root home).find path = .ok t) :
    Continues path path ∧ root.follow [] (route home path) = .ok t := by
  simp only [ofTree] at h
  split at h
  next => cases h
  next hnul =>
    split at h
    next => cases h
    next hempty =>
      refine ⟨⟨by simpa using hempty, rfl, by simpa using hnul⟩, ?_⟩
      rw [route]
      split at h
      next bytes hfollow =>
        split at h
        · cases h
        · cases h
          exact hfollow
      next => exact h

/-- What is found in a tree that a file system can hold is such a tree. -/
theorem proper_of_find (hroot : root.Proper) (h : (ofTree root home).find path = .ok t) :
    t.Proper := by
  have hstart : Tree.AllProper [] root := ⟨hroot, nofun⟩
  exact hstart.follow (follow_of_find h).2

theorem find_of_follow {bytes : List UInt8} (hpath : Continues path path)
    (hslash : wantsFolder path = false) (h : root.follow [] (route home path) = .ok (.file bytes)) :
    (ofTree root home).find path = .ok (.file bytes) := by
  rw [route] at h
  simp only [ofTree]
  rw [if_neg (by simpa using hpath.noNul), if_neg (by simpa using hpath.nonempty), h]
  simp only [hslash, Bool.false_eq_true, if_false]

/-- **The path of a file.** Names that lead from a folder to a file, joined to a path of the
folder, make a path of the file. -/
theorem find_joinAll {bytes : List UInt8} (hroot : root.Proper)
    (hfind : (ofTree root home).find path = .ok (.folder entries))
    (hleads : (Tree.folder entries).Leads ns (.file bytes)) :
    (ofTree root home).find (joinAll path ns) = .ok (.file bytes) := by
  obtain ⟨hpath, hfollow⟩ := follow_of_find hfind
  have hproper := proper_of_find hroot hfind
  have hns := hproper.leads hleads
  have hjoined := hpath.joinAll hns
  have hne : ns ≠ [] := by
    rintro rfl
    cases hleads
  refine find_of_follow ⟨hjoined.nonempty, rfl, hjoined.noNul⟩ (wantsFolder_joinAll hns hne) ?_
  have hroute : route home (joinAll path ns) = route home path ++ ns := by
    rw [route, route, hjoined.head, names_joinAll hns]
    split
    · rfl
    · rw [List.append_assoc]
  obtain ⟨around, hmore⟩ := Tree.follow_append hfollow
  rw [hroute, hmore]
  exact Tree.follow_of_leads hproper hleads around

/-- In which order entries are listed makes no other difference to what is found. -/
theorem alike_find (h : root.Relisted root') (hroot : root.Proper) (home : List String)
    (path : String) :
    Tree.Alike ((ofTree root home).find path) ((ofTree root' home).find path) := by
  have halike := h.follow .nil ⟨hroot, nofun⟩ (route home path)
  rw [route] at halike
  simp only [ofTree]
  split
  · exact .fault _
  · split
    · exact .fault _
    · rcases halike.cases with ⟨f, hfault, hfault'⟩ | ⟨t, t', ht, htree, htree'⟩
      · rw [hfault, hfault']
        exact .fault f
      · rw [htree, htree']
        cases ht with
        | file bytes =>
            dsimp only
            split
            · exact .fault _
            · exact .tree (.file bytes)
        | folder hnames hinner => exact .tree (.folder hnames hinner)

end Headline.Files
