import Headline.Text.Casing
import Mathlib.Data.List.Chain

/-!
# What the case tables list

A mapping moves the code points that its rows and expansions cover and sends them to forms that
these list. All that is said about characters rests on two checks of a table: that none of its
forms holds a code point that it moves itself, and that the forms are made of code points of
characters. Compared as lists the tables are too long for that; as bits of numbers (`bits`) they
are compared at once, and the bits of a row are put together without its list (`rowBits`).

Upper and lower case do not undo each other. Only one thing is known about both: an upper-case
form holds a character that lower case moves (`exists_lowerChar_ne`).
-/

namespace Headline.Text

/-! ## Sets of code points -/

/-- Code points as the bits of a number. -/
def bits : List Nat → Nat
  | [] => 0
  | n :: ns => 1 <<< n ||| bits ns

theorem testBit_bits {n : Nat} : ∀ ns : List Nat, (bits ns).testBit n = true ↔ n ∈ ns
  | [] => by simp [bits]
  | m :: ns => by
      rw [bits, Nat.testBit_or, Bool.or_eq_true, testBit_bits ns, Nat.one_shiftLeft,
        Nat.testBit_two_pow,
        decide_eq_true_eq, List.mem_cons, eq_comm]

theorem bits_append (ns ms : List Nat) : bits (ns ++ ms) = bits ns ||| bits ms := by
  induction ns with
  | nil => simp [bits]
  | cons n ns ih => rw [List.cons_append, bits, bits, ih, Nat.or_assoc]

theorem notMem_of_bits {ns ms : List Nat} (h : bits ns &&& bits ms = 0) {n : Nat} (hn : n ∈ ns) :
    n ∉ ms := by
  intro hm
  have hbit : (bits ns &&& bits ms).testBit n = true := by
    rw [Nat.testBit_and, (testBit_bits ns).mpr hn, (testBit_bits ms).mpr hm]
    rfl
  rw [h, Nat.zero_testBit] at hbit
  cases hbit

theorem exists_mem_of_bits {ns ms : List Nat} (h : bits ns &&& bits ms ≠ 0) :
    ∃ n ∈ ns, n ∈ ms := by
  obtain ⟨n, hn⟩ := Nat.exists_testBit_of_ne_zero h
  rw [Nat.testBit_and, Bool.and_eq_true] at hn
  exact ⟨n, (testBit_bits ns).mp hn.1, (testBit_bits ms).mp hn.2⟩

/-! ## Rows -/

namespace CaseRow

/-- The code points that a row moves. -/
def sources (r : CaseRow) : List Nat :=
  (List.range ((r.last - r.first) / r.step + 1)).map fun k => r.first + r.step * k

/-- The code points that a row moves them to. -/
def images (r : CaseRow) : List Nat :=
  (List.range ((r.last - r.first) / r.step + 1)).map fun k => r.image + r.step * k

theorem step_mul_le {r : CaseRow} {k : Nat}
    (hk : k ∈ List.range ((r.last - r.first) / r.step + 1)) : r.step * k ≤ r.last - r.first :=
  Nat.le_trans (Nat.mul_le_mul_left _ (Nat.le_of_lt_succ (List.mem_range.mp hk)))
    (Nat.mul_div_le _ _)

/-- The code points of a row lie between its first and its last. -/
theorem mem_sources {r : CaseRow} (hr : r.first ≤ r.last) {n : Nat} :
    n ∈ r.sources ↔ r.first ≤ n ∧ n ≤ r.last ∧ (n - r.first) % r.step = 0 := by
  rw [sources, List.mem_map]
  constructor
  · rintro ⟨k, hk, rfl⟩
    have hle := step_mul_le hk
    refine ⟨by omega, by omega, ?_⟩
    rw [Nat.add_sub_cancel_left, Nat.mul_mod_right]
  · rintro ⟨hfirst, hlast, hstep⟩
    have hdiv := Nat.div_add_mod (n - r.first) r.step
    refine ⟨(n - r.first) / r.step, List.mem_range.mpr (Nat.lt_succ_of_le ?_), by omega⟩
    exact Nat.div_le_div_right (by omega)

theorem mem_images {r : CaseRow} {n : Nat} (hn : n ∈ r.sources) :
    r.image + (n - r.first) ∈ r.images := by
  obtain ⟨k, hk, rfl⟩ := List.mem_map.mp hn
  exact List.mem_map.mpr ⟨k, hk, by rw [Nat.add_sub_cancel_left]⟩

theorem le_of_mem_images {r : CaseRow} {n : Nat} (hn : n ∈ r.images) :
    r.image ≤ n ∧ n ≤ r.image + (r.last - r.first) := by
  obtain ⟨k, hk, rfl⟩ := List.mem_map.mp hn
  have hle := step_mul_le hk
  omega

/-- One row ends before the other begins. -/
def Before (q r : CaseRow) : Prop := q.last < r.first ∧ r.first ≤ r.last

instance : DecidableRel Before := fun q r =>
  inferInstanceAs (Decidable (q.last < r.first ∧ r.first ≤ r.last))

instance : Trans Before Before Before where
  trans hqr hrs := ⟨Nat.lt_trans (Nat.lt_of_lt_of_le hqr.1 hqr.2) hrs.1, hrs.2⟩

/-- Rows in ascending order, none of them reaching into the next. -/
structure Ascending (rows : List CaseRow) : Prop where
  nonempty : ∀ r ∈ rows, r.first ≤ r.last
  chain : rows.IsChain Before

/-- A code point of no row stays where it is. -/
theorem shift_of_notMem : ∀ {rows : List CaseRow} {n : Nat},
    (∀ r ∈ rows, r.first ≤ r.last) → n ∉ rows.flatMap sources → shift rows n = n
  | [], n, _, _ => rfl
  | r :: rest, n, hrows, hn => by
      rw [List.flatMap_cons, List.mem_append, not_or] at hn
      have hr := mem_sources (hrows r (List.mem_cons_self ..)) (n := n)
      have hrest := shift_of_notMem (fun q hq => hrows q (List.mem_cons_of_mem _ hq)) hn.2
      rw [shift]
      split
      next => rfl
      next hfirst =>
        split
        next hlast =>
          rw [if_neg]
          exact fun hstep => hn.1 (hr.mpr ⟨Nat.le_of_not_lt hfirst, hlast, hstep⟩)
        next => exact hrest

/-- A code point of a row goes to one of the images. -/
theorem shift_of_mem : ∀ {rows : List CaseRow} {n : Nat}, Ascending rows →
    n ∈ rows.flatMap sources → shift rows n ∈ rows.flatMap images
  | r :: rest, n, hrows, hn => by
      have hle := hrows.nonempty r (List.mem_cons_self ..)
      have hrest : Ascending rest :=
        ⟨fun q hq => hrows.nonempty q (List.mem_cons_of_mem _ hq), hrows.chain.tail⟩
      rw [List.flatMap_cons, List.mem_append] at hn
      rw [List.flatMap_cons, List.mem_append]
      rcases hn with hn | hn
      · obtain ⟨hfirst, hlast, hstep⟩ := (mem_sources hle).mp hn
        left
        rw [shift, if_neg (Nat.not_lt.mpr hfirst), if_pos hlast, if_pos hstep]
        exact mem_images hn
      · obtain ⟨q, hq, hnq⟩ := List.mem_flatMap.mp hn
        have hbefore := List.rel_of_pairwise_cons hrows.chain.pairwise hq
        have hfirst := ((mem_sources (hrest.nonempty q hq)).mp hnq).1
        have hlast := hbefore.1
        right
        rw [shift, if_neg (by omega), if_neg (by omega)]
        exact shift_of_mem hrest hn

/-! ## Rows as bits -/

/-- Bits at equal distances from the lowest one, as the sum of a geometric series. -/
def comb (step m : Nat) : Nat := (1 <<< (step * m) - 1) / (1 <<< step - 1)

/-- The code points of rows, each counted from where it starts. -/
def rowBits (start : CaseRow → Nat) : List CaseRow → Nat
  | [] => 0
  | r :: rest =>
    comb r.step ((r.last - r.first) / r.step + 1) <<< start r ||| rowBits start rest

theorem two_le_shiftLeft {step : Nat} (hstep : 0 < step) : 2 ≤ 1 <<< step := by
  calc 2 = 2 ^ 1 := rfl
    _ ≤ 2 ^ step := Nat.pow_le_pow_right (by omega) hstep
    _ = 1 <<< step := (Nat.one_shiftLeft step).symm

theorem bits_multiples {step : Nat} (hstep : 0 < step) (m : Nat) :
    bits ((List.range m).map (step * ·)) * (1 <<< step - 1) + 1 = 1 <<< (step * m)
      ∧ bits ((List.range m).map (step * ·)) < 1 <<< (step * m) := by
  have htwo := two_le_shiftLeft hstep
  induction m with
  | zero => simp [bits]
  | succ m ih =>
      obtain ⟨hsum, hlt⟩ := ih
      -- the new bit is above all others, so it is added to them
      have hadd : bits ((List.range (m + 1)).map (step * ·)) =
          1 <<< (step * m) + bits ((List.range m).map (step * ·)) := by
        rw [Nat.one_shiftLeft] at hlt
        rw [Nat.shiftLeft_add_eq_or_of_lt hlt, List.range_succ, List.map_append, bits_append,
          Nat.or_comm]
        simp [bits]
      have hpow : 1 <<< (step * (m + 1)) = 1 <<< (step * m) * 1 <<< step := by
        simp only [Nat.one_shiftLeft, Nat.mul_add, Nat.mul_one, Nat.pow_add]
      have hdouble := Nat.mul_le_mul_left (1 <<< (step * m)) htwo
      have hone : 1 <<< step = 1 <<< step - 1 + 1 := by omega
      rw [hadd, hpow]
      constructor
      · rw [Nat.add_mul, Nat.add_assoc, hsum]
        conv => rhs; rw [hone, Nat.mul_add, Nat.mul_one]
      · omega

theorem comb_eq {step : Nat} (hstep : 0 < step) (m : Nat) :
    bits ((List.range m).map (step * ·)) = comb step m := by
  have htwo := two_le_shiftLeft hstep
  have hsum := (bits_multiples hstep m).1
  exact Nat.eq_div_of_mul_eq_left (by omega) (by omega)

theorem bits_add (first : Nat) (ns : List Nat) :
    bits (ns.map (first + ·)) = bits ns <<< first := by
  induction ns with
  | nil => simp [bits]
  | cons n ns ih =>
      rw [List.map_cons, bits, bits, ih, Nat.shiftLeft_or_distrib, ← Nat.shiftLeft_add,
        Nat.add_comm first n]

theorem bits_flatMap {start : CaseRow → Nat} {rows : List CaseRow} (h : ∀ r ∈ rows, 0 < r.step) :
    bits (rows.flatMap fun r => (List.range ((r.last - r.first) / r.step + 1)).map
      fun k => start r + r.step * k) = rowBits start rows := by
  induction rows with
  | nil => rfl
  | cons r rest ih =>
      obtain ⟨hstep, hrest⟩ := List.forall_mem_cons.mp h
      rw [List.flatMap_cons, bits_append, ih hrest, rowBits, ← comb_eq hstep, ← bits_add,
        List.map_map]
      rfl

end CaseRow

/-! ## Tables -/

/-- The code points that a table moves. -/
def moved (rows : List CaseRow) (expansions : List (Nat × List Nat)) : List Nat :=
  rows.flatMap CaseRow.sources ++ expansions.map (·.1)

/-- The forms that a table moves them to. -/
def forms (rows : List CaseRow) (expansions : List (Nat × List Nat)) : List (List Nat) :=
  (rows.flatMap CaseRow.images).map ([·]) ++ expansions.map (·.2)

theorem mem_of_expansion? : ∀ {expansions : List (Nat × List Nat)} {n : Nat} {ns : List Nat},
    expansion? expansions n = some ns → (n, ns) ∈ expansions
  | (k, cs) :: rest, n, ns, h => by
      rw [expansion?] at h
      split at h
      next => cases h
      next =>
        split at h
        next hk =>
          cases h
          rw [hk]
          exact List.mem_cons_self ..
        next => exact List.mem_cons_of_mem _ (mem_of_expansion? h)

/-- What is checked of a table. Its forms do not hold a code point that it moves. -/
structure Settled (rows : List CaseRow) (expansions : List (Nat × List Nat)) : Prop where
  ascending : CaseRow.Ascending rows
  nonempty : [] ∉ expansions.map (·.2)
  valid : ∀ n ∈ (forms rows expansions).flatten, n.isValidChar
  apart : bits (forms rows expansions).flatten &&& bits (moved rows expansions) = 0

namespace Settled

variable {rows : List CaseRow} {expansions : List (Nat × List Nat)} (h : Settled rows expansions)

include h

/-- A code point of a row or an expansion goes to a form. -/
theorem mapCase_eq_form {c : Char}
    (hc : c.toNat ∈ rows.flatMap CaseRow.sources ∨ (expansion? expansions c.toNat).isSome) :
    ∃ ns ∈ forms rows expansions, mapCase rows expansions c = ns.map Char.ofNat := by
  unfold mapCase
  cases hexp : expansion? expansions c.toNat with
  | some ns =>
      have hns : ns ∈ expansions.map (·.2) := List.mem_map_of_mem (mem_of_expansion? hexp)
      exact ⟨ns, List.mem_append_right _ hns, rfl⟩
  | none =>
      rw [hexp] at hc
      have himage := CaseRow.shift_of_mem h.ascending (hc.resolve_right nofun)
      exact ⟨_, List.mem_append_left _ (List.mem_map_of_mem himage), rfl⟩

/-- Any other code point stays where it is. -/
theorem mapCase_eq_self {c : Char} (hrow : c.toNat ∉ rows.flatMap CaseRow.sources)
    (hexp : expansion? expansions c.toNat = none) : mapCase rows expansions c = [c] := by
  rw [mapCase, hexp]
  show [Char.ofNat (CaseRow.shift rows c.toNat)] = [c]
  rw [CaseRow.shift_of_notMem h.ascending.nonempty hrow, Char.ofNat_toNat]

theorem mapCase_eq_or (c : Char) :
    mapCase rows expansions c = [c]
      ∨ ∃ ns ∈ forms rows expansions, mapCase rows expansions c = ns.map Char.ofNat := by
  by_cases hc : c.toNat ∈ rows.flatMap CaseRow.sources
  · exact Or.inr (h.mapCase_eq_form (Or.inl hc))
  · cases hexp : expansion? expansions c.toNat with
    | some ns => exact Or.inr (h.mapCase_eq_form (Or.inr (by rw [hexp]; rfl)))
    | none => exact Or.inl (h.mapCase_eq_self hc hexp)

theorem mapCase_of_notMem {c : Char} (hc : c.toNat ∉ moved rows expansions) :
    mapCase rows expansions c = [c] := by
  rw [moved, List.mem_append, not_or] at hc
  refine h.mapCase_eq_self hc.1 ?_
  cases hexp : expansion? expansions c.toNat with
  | none => rfl
  | some ns => exact absurd (List.mem_map_of_mem (mem_of_expansion? hexp)) hc.2

theorem toNat_ofNat {ns : List Nat} (hns : ns ∈ forms rows expansions) {n : Nat} (hn : n ∈ ns) :
    (Char.ofNat n).toNat = n := by
  rw [Char.ofNat, dif_pos (h.valid n (List.mem_flatten.mpr ⟨ns, hns, hn⟩))]
  rfl

/-- A character of a form has its code point there. -/
theorem toNat_mem {ns : List Nat} (hns : ns ∈ forms rows expansions) {d : Char}
    (hd : d ∈ ns.map Char.ofNat) : d.toNat ∈ ns := by
  obtain ⟨n, hn, rfl⟩ := List.mem_map.mp hd
  rw [h.toNat_ofNat hns hn]
  exact hn

/-- The characters of a form are not moved. -/
theorem toNat_notMem_moved {ns : List Nat} (hns : ns ∈ forms rows expansions) {d : Char}
    (hd : d ∈ ns.map Char.ofNat) : d.toNat ∉ moved rows expansions :=
  notMem_of_bits h.apart (List.mem_flatten.mpr ⟨ns, hns, h.toNat_mem hns hd⟩)

theorem mapCase_ne_nil (c : Char) : mapCase rows expansions c ≠ [] := by
  rcases h.mapCase_eq_or c with hc | ⟨ns, hns, hc⟩
  · rw [hc]
    exact List.cons_ne_nil _ _
  · rw [hc]
    intro hnil
    rw [List.map_eq_nil_iff] at hnil
    subst hnil
    rcases List.mem_append.mp hns with hns | hns
    · obtain ⟨n, -, hn⟩ := List.mem_map.mp hns
      cases hn
    · exact h.nonempty hns

/-- **Mapping twice is mapping once.** -/
theorem mapCase_of_mem {c d : Char} (hd : d ∈ mapCase rows expansions c) :
    mapCase rows expansions d = [d] := by
  rcases h.mapCase_eq_or c with hc | ⟨ns, hns, hc⟩
  · rw [hc, List.mem_singleton] at hd
    rw [hd]
    exact hc
  · rw [hc] at hd
    exact h.mapCase_of_notMem (h.toNat_notMem_moved hns hd)

/-- A code point of a row is not mapped to itself. -/
theorem mapCase_ne_self {c : Char} (hc : c.toNat ∈ rows.flatMap CaseRow.sources) :
    mapCase rows expansions c ≠ [c] := by
  intro hself
  obtain ⟨ns, hns, hmap⟩ := h.mapCase_eq_form (Or.inl hc)
  refine h.toNat_notMem_moved hns ?_ (List.mem_append_left _ hc)
  rw [← hmap, hself]
  exact List.mem_singleton_self c

/-- What holds of the characters of all forms is kept by the mapping. -/
theorem of_mem_mapCase {P : Char → Prop}
    (hforms : ∀ n ∈ (forms rows expansions).flatten, P (Char.ofNat n)) {c d : Char} (hc : P c)
    (hd : d ∈ mapCase rows expansions c) : P d := by
  rcases h.mapCase_eq_or c with hself | ⟨ns, hns, hmap⟩
  · rw [hself, List.mem_singleton] at hd
    rw [hd]
    exact hc
  · rw [hmap] at hd
    obtain ⟨n, hn, rfl⟩ := List.mem_map.mp hd
    exact hforms n (List.mem_flatten.mpr ⟨ns, hns, hn⟩)

end Settled

theorem flatten_forms (rows : List CaseRow) (expansions : List (Nat × List Nat)) :
    (forms rows expansions).flatten =
      rows.flatMap CaseRow.images ++ (expansions.map (·.2)).flatten := by
  rw [forms, List.flatten_append, ← List.flatMap_def, List.flatMap_singleton']

/-- What is checked of a table, with its rows as wholes: all that makes it settled. -/
def Checks (rows : List CaseRow) (expansions : List (Nat × List Nat)) : Prop :=
  (∀ r ∈ rows, r.first ≤ r.last ∧ 0 < r.step
      ∧ (r.image + (r.last - r.first) < 0xD800
        ∨ 0xDFFF < r.image ∧ r.image + (r.last - r.first) < 0x110000))
    ∧ rows.IsChain CaseRow.Before
    ∧ [] ∉ expansions.map (·.2)
    ∧ (∀ n ∈ (expansions.map (·.2)).flatten, n.isValidChar)
    ∧ (CaseRow.rowBits CaseRow.image rows ||| bits (expansions.map (·.2)).flatten)
      &&& (CaseRow.rowBits CaseRow.first rows ||| bits (expansions.map (·.1))) = 0

instance (rows : List CaseRow) (expansions : List (Nat × List Nat)) :
    Decidable (Checks rows expansions) :=
  inferInstanceAs (Decidable (_ ∧ _ ∧ _ ∧ _ ∧ _))

theorem Checks.bits_sources {rows : List CaseRow} {expansions : List (Nat × List Nat)}
    (h : Checks rows expansions) :
    bits (rows.flatMap CaseRow.sources) = CaseRow.rowBits CaseRow.first rows :=
  CaseRow.bits_flatMap fun r hr => (h.1 r hr).2.1

theorem Checks.bits_images {rows : List CaseRow} {expansions : List (Nat × List Nat)}
    (h : Checks rows expansions) :
    bits (rows.flatMap CaseRow.images) = CaseRow.rowBits CaseRow.image rows :=
  CaseRow.bits_flatMap fun r hr => (h.1 r hr).2.1

theorem Checks.settled {rows : List CaseRow} {expansions : List (Nat × List Nat)}
    (h : Checks rows expansions) : Settled rows expansions := by
  have ⟨hrows, hchain, hnonempty, hexpansions, hapart⟩ := h
  refine ⟨⟨fun r hr => (hrows r hr).1, hchain⟩, hnonempty, ?_, ?_⟩
  · intro n hn
    rw [flatten_forms, List.mem_append] at hn
    rcases hn with hn | hn
    · obtain ⟨r, hr, hn⟩ := List.mem_flatMap.mp hn
      obtain ⟨hfirst, hlast⟩ := CaseRow.le_of_mem_images hn
      rcases (hrows r hr).2.2 with h | h
      · exact Or.inl (by omega)
      · exact Or.inr (by omega)
    · exact hexpansions n hn
  · rw [flatten_forms, moved, bits_append, bits_append, h.bits_images, h.bits_sources]
    exact hapart

/-- A table that has passed its checks. -/
structure CheckedTable where
  rows : List CaseRow
  expansions : List (Nat × List Nat)
  checks : Checks rows expansions

def upperTable : CheckedTable := ⟨upperRows, upperExpansions, by decide +kernel⟩

def lowerTable : CheckedTable := ⟨lowerRows, lowerExpansions, by decide +kernel⟩

theorem settled_upper : Settled upperRows upperExpansions := upperTable.checks.settled

theorem settled_lower : Settled lowerRows lowerExpansions := lowerTable.checks.settled

/-! ## Characters -/

theorem upperChar_ne_nil (c : Char) : upperChar c ≠ [] := settled_upper.mapCase_ne_nil c

theorem lowerChar_ne_nil (c : Char) : lowerChar c ≠ [] := settled_lower.mapCase_ne_nil c

theorem upperChar_of_mem {c d : Char} (hd : d ∈ upperChar c) : upperChar d = [d] :=
  settled_upper.mapCase_of_mem hd

theorem lowerChar_of_mem {c d : Char} (hd : d ∈ lowerChar c) : lowerChar d = [d] :=
  settled_lower.mapCase_of_mem hd

theorem upperBits_lowered :
    CaseRow.rowBits CaseRow.image upperRows &&& CaseRow.rowBits CaseRow.first lowerRows =
        CaseRow.rowBits CaseRow.image upperRows
      ∧ ∀ ns ∈ upperExpansions.map (·.2),
        bits ns &&& CaseRow.rowBits CaseRow.first lowerRows ≠ 0 := by
  decide +kernel

theorem upperForms_lowered : ∀ ns ∈ forms upperRows upperExpansions,
    bits ns &&& bits (lowerRows.flatMap CaseRow.sources) ≠ 0 := by
  have himages : bits (upperRows.flatMap CaseRow.images) =
      CaseRow.rowBits CaseRow.image upperRows := upperTable.checks.bits_images
  have hsources : bits (lowerRows.flatMap CaseRow.sources) =
      CaseRow.rowBits CaseRow.first lowerRows := lowerTable.checks.bits_sources
  obtain ⟨hrows, hexpansions⟩ := upperBits_lowered
  intro ns hns
  rw [hsources]
  rcases List.mem_append.mp hns with hns | hns
  · obtain ⟨n, hn, rfl⟩ := List.mem_map.mp hns
    have hbit := (testBit_bits _).mpr hn
    rw [himages, ← hrows, Nat.testBit_and, Bool.and_eq_true] at hbit
    intro hzero
    have hboth : (bits [n] &&& CaseRow.rowBits CaseRow.first lowerRows).testBit n = true := by
      rw [Nat.testBit_and, (testBit_bits [n]).mpr (List.mem_singleton_self n), hbit.2]
      rfl
    rw [hzero, Nat.zero_testBit] at hboth
    cases hboth
  · exact hexpansions ns hns

/-- **From upper to lower.** If a character has another upper-case form, lower case does not
leave that form alone. -/
theorem exists_lowerChar_ne {c : Char} (hc : upperChar c ≠ [c]) :
    ∃ d ∈ upperChar c, lowerChar d ≠ [d] := by
  obtain ⟨ns, hns, hmap⟩ := (settled_upper.mapCase_eq_or c).resolve_left hc
  obtain ⟨n, hn, hlower⟩ := exists_mem_of_bits (upperForms_lowered ns hns)
  have hnat : (Char.ofNat n).toNat = n := settled_upper.toNat_ofNat hns hn
  refine ⟨Char.ofNat n, ?_, settled_lower.mapCase_ne_self (by rw [hnat]; exact hlower)⟩
  rw [upperChar, hmap]
  exact List.mem_map_of_mem hn

end Headline.Text
