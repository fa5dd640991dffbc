import Headline.Value.Display
import Mathlib.Logic.Basic

/-!
# Which values can be shown

A whole number with too many digits is not shown, and neither is a value that holds one, however
deep it stands in it (`Unshown`). All other values can be shown. For the two ways of showing a
value this comes to the same (`literal_error_iff`, `text_error_iff`).
-/

namespace Headline.Value

variable {v : Value} {fault : DisplayFault}

/-- The values that stand directly in a value. -/
def parts : Value → List Value
  | list vs => vs
  | tuple vs => vs
  | set vs => vs
  | map es => es.flatMap fun e => [e.1, e.2]
  | _ => []

/-- A value that cannot be shown: a whole number with too many digits, or what holds one. -/
inductive Unshown : Value → Prop
  | whole {n : Int} (h : digitLimit ≤ n.natAbs) : Unshown (.int n)
  | part {v p : Value} (hp : p ∈ v.parts) (h : Unshown p) : Unshown v

theorem not_unshown_str (s : String) : ¬Unshown (.str s) := by
  intro h
  cases h with
  | part hp => cases hp

/-! ## One level -/

theorem literal_int_error_iff {n : Int} :
    literal (.int n) = .error fault ↔ digitLimit ≤ n.natAbs := by
  rw [literal, wholeText]
  by_cases h : n.natAbs < digitLimit
  · simp [h]
  · cases fault
    simp [h, Nat.not_lt.mp h]

theorem literals_error_iff {vs : List Value} :
    literals vs = .error fault ↔ ∃ v ∈ vs, literal v = .error fault := by
  induction vs with
  | nil => simp [literals]
  | cons v vs ih =>
      simp only [List.mem_cons, exists_eq_or_imp, ← ih]
      rw [literals]
      cases literal v with
      | error f =>
          cases f
          cases fault
          simp [bind, Except.bind]
      | ok s => cases literals vs <;> simp [bind, Except.bind, pure, Except.pure]

theorem entryLiterals_error_iff {es : List (Value × Value)} :
    entryLiterals es = .error fault ↔
      ∃ e ∈ es, literal e.1 = .error fault ∨ literal e.2 = .error fault := by
  induction es with
  | nil => simp [entryLiterals]
  | cons e es ih =>
      obtain ⟨k, v⟩ := e
      simp only [List.mem_cons, exists_eq_or_imp, ← ih]
      rw [entryLiterals]
      cases literal k with
      | error f =>
          cases f
          cases fault
          simp [bind, Except.bind]
      | ok s =>
          cases literal v with
          | error f =>
              cases f
              cases fault
              simp [bind, Except.bind]
          | ok t => cases entryLiterals es <;> simp [bind, Except.bind, pure, Except.pure]

/-- What is put around texts does not make them fail. -/
theorem map_error_iff {α β : Type} {x : Except DisplayFault α} {g : α → β} :
    (do return g (← x) : Except DisplayFault β) = .error fault ↔ x = .error fault := by
  cases x <;> simp [bind, Except.bind, pure, Except.pure]

/-- A value other than a whole number fails to be shown exactly if one of its parts does. -/
theorem literal_error_iff_part (hv : ∀ n, v ≠ .int n) :
    literal v = .error fault ↔ ∃ p ∈ v.parts, literal p = .error fault := by
  cases v with
  | int n => exact absurd rfl (hv n)
  | list vs => rw [literal, map_error_iff, literals_error_iff, parts]
  | tuple vs =>
      rcases vs with _ | ⟨a, _ | ⟨b, vs⟩⟩
      · simp [literal, literals, parts, bind, Except.bind, pure, Except.pure]
      · rw [literal, map_error_iff, parts]
        simp
      · rw [literal, map_error_iff, literals_error_iff, parts]
        simp
  | set vs =>
      cases vs with
      | nil => simp [literal, parts]
      | cons a vs =>
          rw [literal, map_error_iff, literals_error_iff, parts]
          simp
  | map es =>
      rw [literal, map_error_iff, entryLiterals_error_iff, parts]
      simp only [List.mem_flatMap, List.mem_cons, List.not_mem_nil, or_false]
      constructor
      · rintro ⟨e, he, hkey | hvalue⟩
        · exact ⟨e.1, ⟨e, he, Or.inl rfl⟩, hkey⟩
        · exact ⟨e.2, ⟨e, he, Or.inr rfl⟩, hvalue⟩
      · rintro ⟨p, ⟨e, he, rfl | rfl⟩, hp⟩
        · exact ⟨e, he, Or.inl hp⟩
        · exact ⟨e, he, Or.inr hp⟩
  | _ => simp [literal, parts]

theorem sizeOf_lt_of_mem_parts {p : Value} (hp : p ∈ v.parts) : sizeOf p < sizeOf v := by
  have hlist : ∀ vs : List Value, p ∈ vs → sizeOf p < 1 + sizeOf vs := fun _ hp =>
    Nat.lt_of_lt_of_le (List.sizeOf_lt_of_mem hp) (Nat.le_add_left _ _)
  cases v with
  | list vs => exact Value.list.sizeOf_spec vs ▸ hlist vs hp
  | tuple vs => exact Value.tuple.sizeOf_spec vs ▸ hlist vs hp
  | set vs => exact Value.set.sizeOf_spec vs ▸ hlist vs hp
  | map es =>
      obtain ⟨⟨k, u⟩, he, hpe⟩ := List.mem_flatMap.mp hp
      have hlt := List.sizeOf_lt_of_mem he
      simp only [Prod.mk.sizeOf_spec, Value.map.sizeOf_spec] at hlt ⊢
      simp only [List.mem_cons, List.not_mem_nil, or_false] at hpe
      rcases hpe with rfl | rfl <;> omega
  | _ => cases hp

/-! ## All levels -/

theorem unshown_of_error (v : Value) (h : literal v = .error fault) : v.Unshown := by
  by_cases hv : ∀ n, v ≠ .int n
  · obtain ⟨p, hp, hpart⟩ := (literal_error_iff_part hv).mp h
    exact .part hp (unshown_of_error p hpart)
  · obtain ⟨n, rfl⟩ := not_forall_not.mp hv
    exact .whole (literal_int_error_iff.mp h)
termination_by sizeOf v
decreasing_by exact sizeOf_lt_of_mem_parts hp

/-- **Which values have no literal.** -/
theorem literal_error_iff : literal v = .error fault ↔ v.Unshown := by
  refine ⟨unshown_of_error v, fun h => ?_⟩
  induction h with
  | whole h => exact literal_int_error_iff.mpr h
  | part hp _ ih =>
      refine (literal_error_iff_part ?_).mpr ⟨_, hp, ih⟩
      rintro n rfl
      cases hp

theorem text_error_iff : text v = .error fault ↔ v.Unshown := by
  rw [← @literal_error_iff v fault]
  cases v with
  | str | date | moment => simp [text, literal]
  | _ => exact Iff.rfl

theorem exists_ok_iff {r : Except DisplayFault String}
    (h : r = .error .tooManyDigits ↔ v.Unshown) : (∃ s, r = .ok s) ↔ ¬v.Unshown := by
  rw [← h]
  cases r with
  | ok s => simp
  | error f =>
      cases f
      simp

theorem exists_literal_iff : (∃ s, literal v = .ok s) ↔ ¬v.Unshown :=
  exists_ok_iff literal_error_iff

theorem exists_text_iff : (∃ s, text v = .ok s) ↔ ¬v.Unshown :=
  exists_ok_iff text_error_iff

end Headline.Value
