import Headline.Value.Order

/-!
# Which values can be sorted

Two values can be compared if they are of one kind (`before_ok_iff`): numbers with numbers, texts
with texts, and moments only with moments that know their distance from universal time as they do.
Sorting compares some pairs and not others, and which ones depends on the values. Still it fails
for want of an order exactly if the values are not all of one kind (`sorted_ok_iff`): every value
is compared at least with one that was sorted in before it, so one value of another kind does not
get past this comparison. A value alone is never compared.
-/

namespace Headline.Value

/-- The kinds of values that have an order among themselves. -/
inductive OrderKind where
  | number
  | text
  | bytes
  | date
  | moment (isAware : Bool)
deriving Repr, DecidableEq

/-- The kind of a value, if it has an order with any other. -/
def orderKind? : Value → Option OrderKind
  | bool _ => some .number
  | int _ => some .number
  | float _ => some .number
  | str _ => some .text
  | bytes _ => some .bytes
  | date _ => some .date
  | moment m => some (.moment m.offset.isSome)
  | _ => none

theorem isSome_number? (v : Value) : v.number?.isSome = true ↔ v.orderKind? = some .number := by
  cases v with
  | float x =>
      rw [number?]
      split
      · exact iff_of_true rfl rfl
      · split <;> exact iff_of_true rfl rfl
  | _ => simp [number?, orderKind?]

theorem before_of_number? {v w : Value} {x y : Number} (hv : v.number? = some x)
    (hw : w.number? = some y) : v.before w = .ok (x.compare? y == some .lt) := by
  unfold before
  split
  case h_7 => rw [hv, hw]
  all_goals cases hv

/-- The values of each kind but that of numbers. -/
inductive IsOf : OrderKind → Value → Prop
  | text (s : String) : IsOf .text (.str s)
  | bytes (bs : List UInt8) : IsOf .bytes (.bytes bs)
  | date (d : Date) : IsOf .date (.date d)
  | moment {m : Moment} {isAware : Bool} (h : m.offset.isSome = isAware) :
      IsOf (.moment isAware) (.moment m)

theorem isOf_of_kind {v : Value} {k : OrderKind} (h : v.orderKind? = some k)
    (hk : k ≠ .number) : IsOf k v := by
  cases v with
  | bool | int | float =>
      cases h
      exact absurd rfl hk
  | str s =>
      cases h
      exact .text s
  | bytes bs =>
      cases h
      exact .bytes bs
  | date d =>
      cases h
      exact .date d
  | moment m => exact Option.some.inj h ▸ .moment rfl
  | _ => cases h

/-- Values are compared exactly if they are of one kind. -/
theorem before_ok_iff {v w : Value} :
    (∃ b, v.before w = .ok b) ↔ ∃ k, v.orderKind? = some k ∧ w.orderKind? = some k := by
  constructor
  · rintro ⟨r, h⟩
    unfold before at h
    split at h
    next => exact ⟨.text, rfl, rfl⟩
    next => exact ⟨.bytes, rfl, rfl⟩
    next => exact ⟨.date, rfl, rfl⟩
    next a b =>
      split at h
      next haware => exact ⟨.moment b.offset.isSome, by rw [orderKind?, beq_iff_eq.mp haware], rfl⟩
      next => cases h
    next => cases h
    next => cases h
    next =>
      split at h
      next x y hx hy =>
        exact ⟨.number, (isSome_number? v).mp (by rw [hx]; rfl),
          (isSome_number? w).mp (by rw [hy]; rfl)⟩
      next => cases h
  · rintro ⟨k, hv, hw⟩
    by_cases hk : k = .number
    · subst hk
      obtain ⟨x, hx⟩ := Option.isSome_iff_exists.mp ((isSome_number? v).mpr hv)
      obtain ⟨y, hy⟩ := Option.isSome_iff_exists.mp ((isSome_number? w).mpr hw)
      exact ⟨_, before_of_number? hx hy⟩
    · cases isOf_of_kind hv hk with
      | text a =>
          cases isOf_of_kind hw hk with
          | text b => exact ⟨_, rfl⟩
      | bytes a =>
          cases isOf_of_kind hw hk with
          | bytes b => exact ⟨_, rfl⟩
      | date a =>
          cases isOf_of_kind hw hk with
          | date b => exact ⟨_, rfl⟩
      | moment ha =>
          cases isOf_of_kind hw hk with
          | moment hb => exact ⟨_, if_pos (beq_iff_eq.mpr (ha.trans hb.symm))⟩

/-! ## One step of sorting -/

section Sorting

variable {k : OrderKind} {v last : Value} {vs : List Value} {arranged : Array Value} {lo hi n : Nat}

theorem runLength_of_kind (hlast : last.orderKind? = some k)
    (hvs : ∀ v ∈ vs, v.orderKind? = some k) (descending : Bool) :
    ∃ n, runLength descending last vs = .ok n := by
  induction vs generalizing last with
  | nil => exact ⟨0, rfl⟩
  | cons v vs ih =>
      obtain ⟨hv, hvs⟩ := List.forall_mem_cons.mp hvs
      obtain ⟨b, hb⟩ := before_ok_iff.mpr ⟨k, hv, hlast⟩
      obtain ⟨n, hn⟩ := ih hv hvs
      simp only [runLength, hb, hn, bind, Except.bind]
      split <;> exact ⟨_, rfl⟩

/-- The members of a run are compared one with the next, so they are of one kind. -/
theorem kind_of_runLength {descending : Bool} (hlast : last.orderKind? = some k)
    (h : runLength descending last vs = .ok n) : ∀ v ∈ vs.take n, v.orderKind? = some k := by
  induction vs generalizing last n with
  | nil => simp
  | cons v vs ih =>
      rw [runLength] at h
      cases hb : v.before last with
      | error fault =>
          rw [hb] at h
          cases h
      | ok b =>
          obtain ⟨k', hv, hlast'⟩ := before_ok_iff.mp ⟨b, hb⟩
          cases hlast.symm.trans hlast'
          simp only [hb, bind, Except.bind] at h
          split at h
          next =>
            cases hn : runLength descending v vs with
            | error fault =>
                rw [hn] at h
                cases h
            | ok m =>
                rw [hn] at h
                cases h
                rw [List.take_succ_cons]
                exact List.forall_mem_cons.mpr ⟨hv, ih hv hn⟩
          next =>
            cases h
            simp

theorem insertPosition_of_kind (hall : ∀ w ∈ arranged, w.orderKind? = some k)
    (hv : v.orderKind? = some k) (lo hi : Nat) :
    ∃ i, insertPosition arranged v lo hi = .ok i := by
  fun_induction insertPosition arranged v lo hi with
  | case1 | case5 => exact ⟨_, rfl⟩
  | case2 lo hi hlt mid w hw fault hfault =>
      obtain ⟨b, hb⟩ := before_ok_iff.mpr ⟨k, hv, hall w (Array.mem_of_getElem? hw)⟩
      cases hfault.symm.trans hb
  | case3 lo hi hlt mid w hw hb ih => exact ih
  | case4 lo hi hlt mid w hw hb ih => exact ih

/-- A value is compared with the middle one of those among which it goes. -/
theorem kind_of_insertPosition (hall : ∀ w ∈ arranged, w.orderKind? = some k) {i : Nat}
    (hlt : lo < hi) (hsize : hi ≤ arranged.size)
    (h : insertPosition arranged v lo hi = .ok i) : v.orderKind? = some k := by
  have hmid : lo + (hi - lo) / 2 < arranged.size := by omega
  rw [insertPosition, dif_pos hlt] at h
  simp only [Array.getElem?_eq_getElem hmid] at h
  cases hb : v.before arranged[lo + (hi - lo) / 2] with
  | error fault =>
      rw [hb] at h
      cases h
  | ok b =>
      obtain ⟨k', hv, hw⟩ := before_ok_iff.mp ⟨b, hb⟩
      cases (hall _ (Array.getElem_mem hmid)).symm.trans hw
      exact hv

/-! ## Sorting -/

theorem insertAll_ok_iff {arranged : List Value} (hne : arranged ≠ [])
    (hall : ∀ w ∈ arranged, w.orderKind? = some k) :
    (∃ ws, insertAll arranged vs = .ok ws) ↔ ∀ v ∈ vs, v.orderKind? = some k := by
  induction vs generalizing arranged with
  | nil => simp [insertAll]
  | cons v vs ih =>
      have hall' : ∀ w ∈ arranged.toArray, w.orderKind? = some k := fun w hw =>
        hall w (List.mem_toArray.mp hw)
      have hmore : ∀ i, v.orderKind? = some k →
          ∀ w ∈ arranged.take i ++ v :: arranged.drop i, w.orderKind? = some k := by
        intro i hv w hw
        rcases List.mem_append.mp hw with hw | hw
        · exact hall w (List.mem_of_mem_take hw)
        · rcases List.mem_cons.mp hw with rfl | hw
          · exact hv
          · exact hall w (List.mem_of_mem_drop hw)
      have hne' : ∀ i, arranged.take i ++ v :: arranged.drop i ≠ [] := fun i => by simp
      rw [insertAll, List.forall_mem_cons]
      constructor
      · rintro ⟨ws, h⟩
        cases hpos : insertPosition arranged.toArray v 0 arranged.length with
        | error fault =>
            rw [hpos] at h
            cases h
        | ok i =>
            have hv := kind_of_insertPosition hall' (List.length_pos_iff.mpr hne)
              (Nat.le_refl _) hpos
            rw [hpos] at h
            exact ⟨hv, (ih (hne' i) (hmore i hv)).mp ⟨ws, h⟩⟩
      · rintro ⟨hv, hvs⟩
        obtain ⟨i, hpos⟩ := insertPosition_of_kind hall' hv 0 arranged.length
        rw [hpos]
        exact (ih (hne' i) (hmore i hv)).mpr hvs

/-- The run at the front may be turned around first. -/
theorem insertAll_run_ok_iff {run : List Value} (hne : run ≠ [])
    (hall : ∀ w ∈ run, w.orderKind? = some k) (descending : Bool) :
    (∃ ws, insertAll (if descending = true then run.reverse else run) vs = .ok ws) ↔
      ∀ v ∈ vs, v.orderKind? = some k := by
  split
  next =>
    refine insertAll_ok_iff (fun h => hne (List.reverse_eq_nil_iff.mp h)) fun w hw => ?_
    exact hall w (List.mem_reverse.mp hw)
  next => exact insertAll_ok_iff hne hall

end Sorting

/-- **Which values can be sorted.** Values are sorted exactly if they are all of one kind, or if
there are no two of them. -/
theorem sorted_ok_iff {vs : List Value} :
    (∃ ws, sorted vs = .ok ws) ↔ vs.length ≤ 1 ∨ ∃ k, ∀ v ∈ vs, v.orderKind? = some k := by
  rcases vs with _ | ⟨a, _ | ⟨b, rest⟩⟩
  · simp [sorted]
  · simp [sorted]
  have hlong : ¬(a :: b :: rest).length ≤ 1 := by simp
  rw [or_iff_right hlong]
  constructor
  · rintro ⟨ws, h⟩
    rw [sorted] at h
    cases hb : b.before a with
    | error fault =>
        rw [hb] at h
        cases h
    | ok descending =>
        obtain ⟨k, hkb, hka⟩ := before_ok_iff.mp ⟨descending, hb⟩
        cases hn : runLength descending b rest with
        | error fault =>
            simp only [hb, hn, bind, Except.bind] at h
            cases h
        | ok n =>
            have hrun : ∀ v ∈ (a :: b :: rest).take (n + 2), v.orderKind? = some k := by
              rw [List.take_succ_cons, List.take_succ_cons, List.forall_mem_cons,
                List.forall_mem_cons]
              exact ⟨hka, hkb, kind_of_runLength hkb hn⟩
            simp only [hb, hn, bind, Except.bind] at h
            have hrest := (insertAll_run_ok_iff (List.cons_ne_nil _ _) hrun descending).mp ⟨ws, h⟩
            rw [← List.take_append_drop (n + 2) (a :: b :: rest)]
            exact ⟨k, List.forall_mem_append.mpr ⟨hrun, hrest⟩⟩
  · rintro ⟨k, hk⟩
    have hka := hk a (List.mem_cons_self ..)
    obtain ⟨hkb, hrest⟩ := List.forall_mem_cons.mp (List.forall_mem_cons.mp hk).2
    obtain ⟨descending, hb⟩ := before_ok_iff.mpr ⟨k, hkb, hka⟩
    obtain ⟨n, hn⟩ := runLength_of_kind hkb hrest descending
    rw [sorted]
    simp only [hb, hn, bind, Except.bind]
    have hrun : ∀ w ∈ (a :: b :: rest).take (n + 2), w.orderKind? = some k := fun w hw =>
      hk w (List.mem_of_mem_take hw)
    refine (insertAll_run_ok_iff (List.cons_ne_nil _ _) hrun descending).mpr fun v hv => ?_
    exact hk v (List.mem_of_mem_drop hv)

/-! ## What is sorted -/

theorem insertAll_perm {arranged vs ws : List Value} (h : insertAll arranged vs = .ok ws) :
    ws.Perm (arranged ++ vs) := by
  induction vs generalizing arranged with
  | nil =>
      cases h
      rw [List.append_nil]
  | cons v vs ih =>
      rw [insertAll] at h
      cases hpos : insertPosition arranged.toArray v 0 arranged.length with
      | error fault =>
          rw [hpos] at h
          cases h
      | ok i =>
          rw [hpos] at h
          have hinsert : (arranged.take i ++ v :: arranged.drop i).Perm (v :: arranged) := by
            have hmiddle := @List.perm_middle _ v (arranged.take i) (arranged.drop i)
            rwa [List.take_append_drop] at hmiddle
          calc ws.Perm (arranged.take i ++ v :: arranged.drop i ++ vs) := ih h
            _ |>.Perm (v :: arranged ++ vs) := hinsert.append_right vs
            _ |>.Perm (arranged ++ v :: vs) := List.perm_middle.symm

/-- Sorting neither adds values nor loses any. -/
theorem sorted_perm {vs ws : List Value} (h : sorted vs = .ok ws) : ws.Perm vs := by
  rcases vs with _ | ⟨a, _ | ⟨b, rest⟩⟩
  · cases h
    exact List.Perm.refl _
  · cases h
    exact List.Perm.refl _
  rw [sorted] at h
  cases hb : b.before a with
  | error fault =>
      rw [hb] at h
      cases h
  | ok descending =>
      cases hn : runLength descending b rest with
      | error fault =>
          simp only [hb, hn, bind, Except.bind] at h
          cases h
      | ok n =>
          simp only [hb, hn, bind, Except.bind] at h
          have hperm := insertAll_perm h
          rw [← List.take_append_drop (n + 2) (a :: b :: rest)]
          refine hperm.trans (List.Perm.append_right _ ?_)
          split
          next => exact List.reverse_perm _
          next => exact List.Perm.refl _

end Headline.Value
