import Headline.Proofs.Text.Caseless
import Headline.Proofs.Text.Casing
import Headline.Proofs.Title.Pieces

/-!
# When the right form is in its right form

The right form of a title changes its words in place (`caseChars_eq_mapWords`), so asking whether
it is in its right form comes down to single words. A word that is an acronym is left alone, and
a word in lower case stays kept. A word that gets a capital letter is the one case that is not
settled: the letter may be one whose capital belongs to another small letter, as with the long
`ſ` and the dotless `ı`, and the word may by that turn into one that is kept (`Relapses`). This
is the only way in which a right form is not in its right form (`caseTitle_caseTitle_iff`).
-/

namespace Headline

open Text

/-! ## Separators have no case -/

/-- The code points of separators. -/
def separators : List Nat :=
  '-'.toNat :: blankRanges.flatMap fun r => List.range' r.1 (r.2 + 1 - r.1)

theorem Text.Ranges.mem_of_contains {rs : Ranges} {n : Nat} (h : rs.contains n = true) :
    n ∈ rs.flatMap fun r => List.range' r.1 (r.2 + 1 - r.1) := by
  obtain ⟨r, hr, hlo, hhi⟩ := Ranges.exists_of_contains h
  refine List.mem_flatMap.mpr ⟨r, hr, ?_⟩
  rw [List.mem_range'_1]
  omega

theorem mem_separators {c : Char} (h : isSeparator c = true) : c.toNat ∈ separators := by
  rw [isSeparator, Bool.or_eq_true, beq_iff_eq] at h
  rcases h with h | rfl
  · exact List.mem_cons_of_mem _ (Ranges.mem_of_contains h)
  · exact List.mem_cons_self ..

/-- A table whose forms hold no separator does not make separators. -/
theorem isSeparator_of_mem_mapCase {rows : List CaseRow} {expansions : List (Nat × List Nat)}
    (h : Settled rows expansions)
    (hforms : bits (forms rows expansions).flatten &&& bits separators = 0) {c d : Char}
    (hc : isSeparator c = false) (hd : d ∈ mapCase rows expansions c) : isSeparator d = false := by
  refine h.of_mem_mapCase (P := (isSeparator · = false)) (fun n hn => ?_) hc hd
  obtain ⟨ns, hns, hmem⟩ := List.mem_flatten.mp hn
  have hnot := notMem_of_bits hforms hn
  rw [← h.toNat_ofNat hns hmem] at hnot
  exact Bool.not_eq_true _ |>.mp fun hsep => hnot (mem_separators hsep)

theorem isSeparator_upperChar {c d : Char} (hc : isSeparator c = false) (hd : d ∈ upperChar c) :
    isSeparator d = false :=
  isSeparator_of_mem_mapCase settled_upper (by decide +kernel) hc hd

theorem isSeparator_lowerChar {c d : Char} (hc : isSeparator c = false) (hd : d ∈ lowerChar c) :
    isSeparator d = false :=
  isSeparator_of_mem_mapCase settled_lower (by decide +kernel) hc hd

/-! ## One word -/

theorem capitalizeChars_of_upperChar {c : Char} (hc : upperChar c = [c]) (cs : List Char) :
    capitalizeChars (c :: cs) = c :: cs := by
  rw [capitalizeChars, hc]
  rfl

/-- A capital stays a capital. -/
theorem capitalizeChars_capitalizeChars (w : List Char) :
    capitalizeChars (capitalizeChars w) = capitalizeChars w := by
  cases w with
  | nil => rfl
  | cons c cs =>
      obtain ⟨d, ds, hup⟩ := List.exists_cons_of_ne_nil (upperChar_ne_nil c)
      have hmem : d ∈ upperChar c := by
        rw [hup]
        exact List.mem_cons_self ..
      rw [capitalizeChars, hup]
      exact capitalizeChars_of_upperChar (upperChar_of_mem hmem) (ds ++ cs)

/-- If lower case leaves the capitalised word alone, its letter was no other before. -/
theorem capitalizeChars_eq_self {w : List Char}
    (h : lowerChars (capitalizeChars w) = capitalizeChars w) : capitalizeChars w = w := by
  cases w with
  | nil => rfl
  | cons c cs =>
      refine capitalizeChars_of_upperChar (Decidable.byContradiction fun hc => ?_) cs
      obtain ⟨d, hd, hne⟩ := exists_lowerChar_ne hc
      exact hne (lowerChars_eq_self.mp h d (List.mem_append_left _ hd))

/-- A word in lower case is no acronym. -/
theorem isAcronymChars_lowerChars (w : List Char) : isAcronymChars (lowerChars w) = false := by
  rw [isAcronymChars, lowerChars_lowerChars, bne_self_eq_false, Bool.and_false]

namespace IsWord

variable {w : List Char} (h : IsWord w)

include h

theorem lower : IsWord (lowerChars w) := by
  refine ⟨lowerChars_ne_nil h.nonempty, fun d hd => ?_⟩
  rcases mem_lowerAfter hd with ⟨c, hc, hdc⟩ | rfl
  · exact isSeparator_lowerChar (h.joined c hc) hdc
  · decide +kernel

theorem capitalize : IsWord (capitalizeChars w) := by
  obtain ⟨c, cs, rfl⟩ := List.exists_cons_of_ne_nil h.nonempty
  refine ⟨List.append_ne_nil_of_left_ne_nil (upperChar_ne_nil c) _, fun d hd => ?_⟩
  rcases List.mem_append.mp hd with hd | hd
  · exact isSeparator_upperChar (h.joined c (List.mem_cons_self ..)) hd
  · exact h.joined d (List.mem_cons_of_mem _ hd)

end IsWord

namespace Casing

variable {g : Casing} {opens : Bool} {w : List Char}

/-- The right form of a word in three cases: where the first character is an acronym by itself,
it is its own capital. -/
theorem caseWord_eq (g : Casing) (opens : Bool) (w : List Char) :
    g.caseWord opens w =
      if isAcronymChars w then w
      else if g.keepsLower opens w then lowerChars w
      else capitalizeChars w := by
  rw [caseWord]
  split
  next => rfl
  next =>
    split
    next => rfl
    next =>
      split
      next hfirst =>
        cases w with
        | nil => rfl
        | cons c cs =>
            rw [isAcronymChars, Bool.and_eq_true, beq_iff_eq] at hfirst
            have hc : upperChar c = [c] := by simpa [upperChars] using hfirst.1
            exact (capitalizeChars_of_upperChar hc cs).symm
      next => rfl

theorem caseWord_acronym (h : isAcronymChars w = true) : g.caseWord opens w = w := by
  rw [caseWord_eq, if_pos h]

theorem caseWord_kept (h : isAcronymChars w = false) (hkept : g.keepsLower opens w = true) :
    g.caseWord opens w = lowerChars w := by
  rw [caseWord_eq, if_neg (by rw [h]; exact Bool.false_ne_true), if_pos hkept]

theorem caseWord_capital (h : isAcronymChars w = false) (hkept : g.keepsLower opens w = false) :
    g.caseWord opens w = capitalizeChars w := by
  rw [caseWord_eq, if_neg (by rw [h]; exact Bool.false_ne_true),
    if_neg (by rw [hkept]; exact Bool.false_ne_true)]

theorem keepsLower_lowerChars : g.keepsLower opens (lowerChars w) = g.keepsLower opens w := by
  rw [keepsLower, lowerChars_lowerChars]
  rfl

theorem isWord_caseWord (g : Casing) (opens : Bool) {w : List Char} (h : IsWord w) :
    IsWord (g.caseWord opens w) := by
  rw [caseWord_eq]
  split
  · exact h
  · split
    · exact h.lower
    · exact h.capitalize

/-- A word is to get a capital letter, and with this letter it would be kept in lower case. -/
structure Relapses (g : Casing) (opens : Bool) (w : List Char) : Prop where
  noAcronym : isAcronymChars w = false
  notKept : g.keepsLower opens w = false
  capitalNoAcronym : isAcronymChars (capitalizeChars w) = false
  capitalKept : g.keepsLower opens (capitalizeChars w) = true

/-- A word that relapses gets its capital letter in one round and loses it in the next. -/
theorem Relapses.caseWord_ne (h : g.Relapses opens w) :
    g.caseWord opens (g.caseWord opens w) ≠ g.caseWord opens w := by
  rw [caseWord_capital h.noAcronym h.notKept, caseWord_kept h.capitalNoAcronym h.capitalKept]
  intro heq
  -- nothing to lower means that nothing was raised, and then the word was kept before
  have hkept := h.capitalKept
  rw [capitalizeChars_eq_self heq, h.notKept] at hkept
  cases hkept

/-- Every other word is settled after one round. -/
theorem caseWord_caseWord (h : ¬g.Relapses opens w) :
    g.caseWord opens (g.caseWord opens w) = g.caseWord opens w := by
  cases hacronym : isAcronymChars w with
  | true =>
      rw [caseWord_acronym hacronym]
      exact caseWord_acronym hacronym
  | false =>
      cases hkept : g.keepsLower opens w with
      | true =>
          have hagain := caseWord_kept (isAcronymChars_lowerChars w)
            (keepsLower_lowerChars.trans hkept)
          rw [caseWord_kept hacronym hkept]
          exact hagain.trans (lowerChars_lowerChars w)
      | false =>
          rw [caseWord_capital hacronym hkept]
          cases hcapital : isAcronymChars (capitalizeChars w) with
          | true => exact caseWord_acronym hcapital
          | false =>
              cases hagain : g.keepsLower opens (capitalizeChars w) with
              | true => exact absurd ⟨hacronym, hkept, hcapital, hagain⟩ h
              | false =>
                  exact (caseWord_capital hcapital hagain).trans
                    (capitalizeChars_capitalizeChars w)

theorem caseWord_caseWord_iff :
    g.caseWord opens (g.caseWord opens w) = g.caseWord opens w ↔ ¬g.Relapses opens w :=
  ⟨fun heq h => h.caseWord_ne heq, caseWord_caseWord⟩

/-! ## Titles -/

theorem caseChars_eq_mapWords (g : Casing) (title : List Char) :
    g.caseChars title = mapWords g.caseWord title := by
  have hpiece : ∀ opens, g.casePiece opens = mapPieces.change (g.caseWord opens) := fun opens => by
    funext p
    cases p <;> rfl
  rw [caseChars, mapWords]
  cases pieces title with
  | nil => rfl
  | cons p ps => rw [casePieces, mapPieces, hpiece, hpiece]

end Casing

/-- **Mended once or mended twice.** The right form of a title is in its right form exactly if no
word of the title relapses. -/
theorem caseTitle_caseTitle_iff (words : WordSet) (allowFirst : Bool) (title : String) :
    caseTitle words allowFirst (caseTitle words allowFirst title) =
        caseTitle words allowFirst title ↔
      ∀ i w, WordAt title.toList i w → ¬Casing.Relapses ⟨words, allowFirst⟩ (i == 0) w := by
  have hword := Casing.isWord_caseWord ⟨words, allowFirst⟩
  rw [caseTitle, caseTitle, String.toList_ofList, String.ofList_inj,
    Casing.caseChars_eq_mapWords, Casing.caseChars_eq_mapWords,
    mapWords_mapWords (fun opens _ => hword opens),
    mapWords_eq_iff (fun opens _ h => hword opens (hword opens h)) (fun opens _ => hword opens)]
  exact forall₃_congr fun i w _ => Casing.caseWord_caseWord_iff

/-- The dotless `ı` gets the capital of another letter, and by that `ın` turns into a kept word. -/
theorem caseTitle_not_idempotent :
    caseTitle (.ofWords defaultWords []) false
        (caseTitle (.ofWords defaultWords []) false "X ın") ≠
      caseTitle (.ofWords defaultWords []) false "X ın" := by
  decide +kernel

end Headline
