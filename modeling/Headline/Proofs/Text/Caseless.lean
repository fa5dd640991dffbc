import Headline.Proofs.Text.CaseTable
import Headline.Text.DecimalDigit
import Headline.Text.Punctuation

/-!
# Digits and punctuation have no case

A class of characters is given by ranges, which are rows that move nothing. So whether a case
table moves a character of a class is seen from bits, as it is seen whether the forms of a table
are moved (`mem_of_ranges`). Digits are not moved at all. Of punctuation and symbols, only the
circled letters are.
-/

namespace Headline.Text

namespace Ranges

variable {rs : Ranges} {n : Nat}

theorem exists_of_contains : ∀ {rs : Ranges}, rs.contains n = true →
    ∃ r ∈ rs, r.1 ≤ n ∧ n ≤ r.2
  | (lo, hi) :: rest, h => by
      rw [contains] at h
      split at h
      next => cases h
      next hlo =>
        rw [Bool.or_eq_true, decide_eq_true_eq] at h
        rcases h with hhi | hrest
        · exact ⟨(lo, hi), List.mem_cons_self .., Nat.le_of_not_lt hlo, hhi⟩
        · obtain ⟨r, hr, hn⟩ := exists_of_contains hrest
          exact ⟨r, List.mem_cons_of_mem _ hr, hn⟩

/-- Ranges as rows. -/
def rows (rs : Ranges) : List CaseRow := rs.map fun r => ⟨r.1, r.2, 1, r.1⟩

theorem mem_sources_rows (h : ∃ r ∈ rs, r.1 ≤ n ∧ n ≤ r.2) :
    n ∈ rs.rows.flatMap CaseRow.sources := by
  obtain ⟨r, hr, hlo, hhi⟩ := h
  refine List.mem_flatMap.mpr ⟨⟨r.1, r.2, 1, r.1⟩, List.mem_map_of_mem hr, ?_⟩
  exact (CaseRow.mem_sources (Nat.le_trans hlo hhi)).mpr ⟨hlo, hhi, Nat.mod_one _⟩

theorem of_mem_sources_rows (hrs : ∀ r ∈ rs, r.1 ≤ r.2)
    (h : n ∈ rs.rows.flatMap CaseRow.sources) : ∃ r ∈ rs, r.1 ≤ n ∧ n ≤ r.2 := by
  obtain ⟨row, hrow, hn⟩ := List.mem_flatMap.mp h
  obtain ⟨r, hr, rfl⟩ := List.mem_map.mp hrow
  obtain ⟨hlo, hhi, -⟩ := (CaseRow.mem_sources (hrs r hr)).mp hn
  exact ⟨r, hr, hlo, hhi⟩

theorem bits_sources_rows (rs : Ranges) :
    bits (rs.rows.flatMap CaseRow.sources) = CaseRow.rowBits CaseRow.first rs.rows := by
  refine CaseRow.bits_flatMap fun r hr => ?_
  obtain ⟨-, -, rfl⟩ := List.mem_map.mp hr
  exact Nat.one_pos

end Ranges

/-- The bits of what a table moves. -/
def CheckedTable.movedBits (T : CheckedTable) : Nat :=
  CaseRow.rowBits CaseRow.first T.rows ||| bits (T.expansions.map (·.1))

theorem CheckedTable.bits_moved (T : CheckedTable) :
    bits (moved T.rows T.expansions) = T.movedBits := by
  rw [moved, bits_append, T.checks.bits_sources, movedBits]

/-- What a table moves of a class lies in certain ranges if their bits say so. -/
theorem CheckedTable.mem_of_ranges (T : CheckedTable) {rs : Ranges} (exceptions : Ranges) {n : Nat}
    (hbits : CaseRow.rowBits CaseRow.first rs.rows &&& T.movedBits |||
      CaseRow.rowBits CaseRow.first exceptions.rows =
        CaseRow.rowBits CaseRow.first exceptions.rows)
    (hn : ∃ r ∈ rs, r.1 ≤ n ∧ n ≤ r.2) (hmoved : n ∈ moved T.rows T.expansions) :
    n ∈ exceptions.rows.flatMap CaseRow.sources := by
  have hclass := (testBit_bits _).mpr (Ranges.mem_sources_rows hn)
  have htable := (testBit_bits _).mpr hmoved
  rw [Ranges.bits_sources_rows] at hclass
  rw [T.bits_moved] at htable
  rw [← testBit_bits, Ranges.bits_sources_rows, ← hbits, Nat.testBit_or, Nat.testBit_and,
    hclass, htable]
  rfl

/-! ## Characters -/

/-- Neither case changes the character. -/
def Caseless (c : Char) : Prop := upperChar c = [c] ∧ lowerChar c = [c]

theorem caseless_of_notMem {c : Char}
    (hupper : c.toNat ∉ moved upperTable.rows upperTable.expansions)
    (hlower : c.toNat ∉ moved lowerTable.rows lowerTable.expansions) : Caseless c :=
  ⟨settled_upper.mapCase_of_notMem hupper, settled_lower.mapCase_of_notMem hlower⟩

theorem exists_zero_of_isDigit {c : Char} (h : isDigit c = true) :
    ∃ r ∈ digitZeros.map fun z => (z, z + 9), r.1 ≤ c.toNat ∧ c.toNat ≤ r.2 := by
  rw [isDigit, digitValue, Option.isSome_map] at h
  obtain ⟨z, hz⟩ := Option.isSome_iff_exists.mp h
  have hrange := List.find?_some hz
  rw [Bool.and_eq_true, decide_eq_true_eq, decide_eq_true_eq] at hrange
  exact ⟨(z, z + 9), List.mem_map_of_mem (List.mem_of_find?_eq_some hz), hrange⟩

theorem caseless_of_isDigit {c : Char} (h : isDigit c = true) : Caseless c := by
  have hzero := exists_zero_of_isDigit h
  refine caseless_of_notMem (fun hmoved => ?_) (fun hmoved => ?_)
  · exact List.not_mem_nil (upperTable.mem_of_ranges [] (by decide +kernel) hzero hmoved)
  · exact List.not_mem_nil (lowerTable.mem_of_ranges [] (by decide +kernel) hzero hmoved)

/-- The circled letters. -/
def circledLetters : Ranges := [(0x24B6, 0x24E9)]

theorem caseless_of_isPunctuation {c : Char} (h : isPunctuation c = true)
    (hletter : circledLetters.has c = false) : Caseless c := by
  have hrange := Ranges.exists_of_contains h
  have hnot : c.toNat ∉ circledLetters.rows.flatMap CaseRow.sources := fun hmem => by
    obtain ⟨r, hr, hlo, hhi⟩ := Ranges.of_mem_sources_rows (by decide) hmem
    rw [circledLetters, List.mem_singleton] at hr
    subst hr
    rw [circledLetters, Ranges.has, Ranges.contains, if_neg (by omega)] at hletter
    simp [hhi] at hletter
  refine caseless_of_notMem (fun hmoved => ?_) (fun hmoved => ?_)
  · exact hnot (upperTable.mem_of_ranges circledLetters (by decide +kernel) hrange hmoved)
  · exact hnot (lowerTable.mem_of_ranges circledLetters (by decide +kernel) hrange hmoved)

end Headline.Text
