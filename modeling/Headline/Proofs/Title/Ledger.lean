import Headline.Title.Ledger

/-!
# First occurrences and the ledger

The ledger is written while titles come up one after the other, and what it holds decides
about the next title. `firsts` says without it which titles those are that it does not hold
at their time: the ones that it did not hold at the start and that have not come up before.
Everything that a check does with its ledger is stated through `firsts`.

How `firsts` goes over a list that is cut in two (`firsts_append`) is what lets the titles of
one document, of several documents and of a series of requests be treated alike.
-/

namespace Headline

/-! ## First occurrences -/

variable {α β κ : Type} [DecidableEq κ]

/-- The members of a list whose key is not among `known` and is not that of an earlier
member. -/
def firsts (key : α → κ) (known : List κ) : List α → List α
  | [] => []
  | x :: xs =>
    if key x ∈ known then firsts key known xs else x :: firsts key (key x :: known) xs

theorem firsts_cons_known {key : α → κ} {known : List κ} {x : α} (h : key x ∈ known)
    (xs : List α) : firsts key known (x :: xs) = firsts key known xs := by
  rw [firsts, if_pos h]

theorem firsts_cons_new {key : α → κ} {known : List κ} {x : α} (h : key x ∉ known)
    (xs : List α) : firsts key known (x :: xs) = x :: firsts key (key x :: known) xs := by
  rw [firsts, if_neg h]

theorem firsts_singleton (key : α → κ) (known : List κ) (x : α) :
    firsts key known [x] = if key x ∈ known then [] else [x] := rfl

/-- Only the members of `known` matter, not their order or number. -/
theorem firsts_congr {key : α → κ} : ∀ {known known' : List κ} (xs : List α),
    (∀ k, k ∈ known ↔ k ∈ known') → firsts key known xs = firsts key known' xs
  | _, _, [], _ => rfl
  | known, known', x :: xs, h => by
      by_cases hx : key x ∈ known
      · rw [firsts_cons_known hx, firsts_cons_known ((h _).mp hx), firsts_congr xs h]
      · rw [firsts_cons_new hx, firsts_cons_new (fun hx' => hx ((h _).mpr hx'))]
        congr 1
        exact firsts_congr xs fun k => by simp [h k]

theorem firsts_append {key : α → κ} : ∀ {known : List κ} (xs ys : List α),
    firsts key known (xs ++ ys) = firsts key known xs ++ firsts key (known ++ xs.map key) ys
  | known, [], ys => by simp [firsts]
  | known, x :: xs, ys => by
      rw [List.cons_append]
      by_cases hx : key x ∈ known
      · rw [firsts_cons_known hx, firsts_cons_known hx, firsts_append xs ys]
        congr 1
        refine firsts_congr ys fun k => ?_
        have hk : k = key x → k ∈ known := fun h => h ▸ hx
        simp only [List.map_cons, List.mem_append, List.mem_cons]
        grind
      · rw [firsts_cons_new hx, firsts_cons_new hx, firsts_append xs ys, List.cons_append]
        congr 2
        exact firsts_congr ys fun k => by simp; grind

theorem firsts_map {key : β → κ} (f : α → β) : ∀ {known : List κ} (xs : List α),
    firsts key known (xs.map f) = (firsts (fun x => key (f x)) known xs).map f
  | _, [] => rfl
  | known, x :: xs => by
      rw [List.map_cons]
      by_cases hx : key (f x) ∈ known
      · have hxf : firsts (fun x => key (f x)) known (x :: xs) =
            firsts (fun x => key (f x)) known xs := by rw [firsts, if_pos hx]
        rw [firsts_cons_known hx, hxf, firsts_map f xs]
      · have hxf : firsts (fun x => key (f x)) known (x :: xs) =
            x :: firsts (fun x => key (f x)) (key (f x) :: known) xs := by rw [firsts, if_neg hx]
        rw [firsts_cons_new hx, hxf, firsts_map f xs, List.map_cons]

theorem firsts_sublist {key : α → κ} : ∀ {known : List κ} (xs : List α),
    (firsts key known xs).Sublist xs
  | _, [] => List.Sublist.slnil
  | known, x :: xs => by
      by_cases hx : key x ∈ known
      · rw [firsts_cons_known hx]
        exact (firsts_sublist xs).cons x
      · rw [firsts_cons_new hx]
        exact (firsts_sublist xs).cons_cons x

/-- The keys that come up are those of all members without the ones known before. -/
theorem mem_map_firsts {key : α → κ} {k : κ} : ∀ {known : List κ} (xs : List α),
    k ∈ (firsts key known xs).map key ↔ k ∈ xs.map key ∧ k ∉ known
  | _, [] => by simp [firsts]
  | known, x :: xs => by
      by_cases hx : key x ∈ known
      · rw [firsts_cons_known hx, mem_map_firsts xs, List.map_cons, List.mem_cons]
        have hk : k = key x → k ∈ known := fun h => h ▸ hx
        grind
      · rw [firsts_cons_new hx, List.map_cons, List.mem_cons, mem_map_firsts xs, List.map_cons,
          List.mem_cons, List.mem_cons]
        have hk : k = key x → k ∉ known := fun h => h ▸ hx
        grind

theorem nodup_map_firsts {key : α → κ} : ∀ {known : List κ} (xs : List α),
    ((firsts key known xs).map key).Nodup
  | _, [] => List.Pairwise.nil
  | known, x :: xs => by
      by_cases hx : key x ∈ known
      · rw [firsts_cons_known hx]
        exact nodup_map_firsts xs
      · rw [firsts_cons_new hx, List.map_cons, List.nodup_cons, mem_map_firsts]
        exact ⟨fun h => h.2 (List.mem_cons_self ..), nodup_map_firsts xs⟩

/-- Keys by themselves: what comes up is everything that is not known. -/
theorem mem_firsts_id {k : κ} {known : List κ} {ks : List κ} :
    k ∈ firsts id known ks ↔ k ∈ ks ∧ k ∉ known := by
  have hmap : k ∈ (firsts id known ks).map id ↔ k ∈ ks.map id ∧ k ∉ known := mem_map_firsts ks
  rwa [List.map_id, List.map_id] at hmap

theorem nodup_firsts_id (known ks : List κ) : (firsts id known ks).Nodup := by
  have hmap : ((firsts id known ks).map id).Nodup := nodup_map_firsts ks
  rwa [List.map_id] at hmap

/-- By their places: the members whose key is not known and is not found further ahead. The
list is the rest of a longer one, of which `ys` has been gone through. -/
theorem firsts_zipIdx_after (key : α → κ) (known : List κ) : ∀ xs ys : List α,
    firsts (fun x => key x.1) (known ++ ys.map key) (xs.zipIdx ys.length) =
      (xs.zipIdx ys.length).filter fun x =>
        decide (key x.1 ∉ known ∧ key x.1 ∉ ((ys ++ xs).take x.2).map key)
  | [], _ => rfl
  | x :: xs, ys => by
      have hrest := firsts_zipIdx_after key known xs (ys ++ [x])
      rw [List.length_append, List.length_singleton, List.append_assoc, List.singleton_append]
        at hrest
      have hhead : (decide (key x ∉ known ∧ key x ∉ ((ys ++ x :: xs).take ys.length).map key)) =
          !decide (key x ∈ known ++ ys.map key) := by
        rw [List.take_left, ← decide_not, decide_eq_decide, List.mem_append, not_or]
      rw [List.zipIdx_cons, List.filter_cons, hhead, ← hrest]
      by_cases hx : key x ∈ known ++ ys.map key
      · have hskip : ∀ zs : List (α × Nat),
            firsts (fun x => key x.1) (known ++ ys.map key) ((x, ys.length) :: zs) =
              firsts (fun x => key x.1) (known ++ ys.map key) zs := fun zs => by
          rw [firsts, if_pos hx]
        rw [hskip, decide_eq_true hx, Bool.not_true, if_neg Bool.false_ne_true]
        refine firsts_congr _ fun k => ?_
        have hk : k = key x → k ∈ known ++ ys.map key := fun h => h ▸ hx
        simp only [List.mem_append, List.map_append, List.map_cons, List.map_nil,
          List.mem_singleton] at hk ⊢
        grind
      · have hkeep : ∀ zs : List (α × Nat),
            firsts (fun x => key x.1) (known ++ ys.map key) ((x, ys.length) :: zs) =
              (x, ys.length) :: firsts (fun x => key x.1) (key x :: (known ++ ys.map key)) zs :=
          fun zs => by rw [firsts, if_neg hx]
        rw [hkeep, decide_eq_false hx, Bool.not_false, if_pos rfl]
        congr 1
        refine firsts_congr _ fun k => ?_
        simp only [List.mem_cons, List.mem_append, List.map_append, List.map_cons, List.map_nil,
          List.not_mem_nil, or_false]
        grind

theorem firsts_zipIdx (key : α → κ) (known : List κ) (xs : List α) :
    firsts (fun x => key x.1) known xs.zipIdx =
      xs.zipIdx.filter fun x =>
        decide (key x.1 ∉ known ∧ key x.1 ∉ (xs.take x.2).map key) := by
  simpa using firsts_zipIdx_after key known xs []

theorem firsts_eq_filter (key : α → κ) (known : List κ) (xs : List α) :
    firsts key known xs = (xs.zipIdx.filter fun x =>
      decide (key x.1 ∉ known ∧ key x.1 ∉ (xs.take x.2).map key)).map (·.1) := by
  rw [← firsts_zipIdx, ← firsts_map, List.zipIdx_map_fst]

/-! ## The ledger -/

namespace Ledger

/-- The titles that are recorded, in order of first arrival. -/
def titles (l : Ledger) : List String := l.entries.map (·.1)

theorem contains_iff {l : Ledger} {title : String} :
    l.contains title = true ↔ title ∈ l.titles := by
  simp [contains, titles, List.any_eq_true]

/-- A title that is new goes to the end. -/
theorem put_of_notMem {l : Ledger} {title : String} (h : title ∉ l.titles) (form : String) :
    l.put title form = ⟨l.entries ++ [(title, form)]⟩ := by
  have hc : l.contains title = false := by
    rw [← Bool.not_eq_true, contains_iff]
    exact h
  rw [put, hc]
  rfl

end Ledger

end Headline
