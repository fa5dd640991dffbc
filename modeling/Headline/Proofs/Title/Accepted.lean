import Headline.Proofs.Check
import Headline.Proofs.Title.Case

/-!
# Titles that are accepted

A title is accepted if it is its own right form. Its right form changes words in their places
and separators not at all, so this is a matter of single words. Which words are accepted is said
here without casing any (`Casing.Right`): an acronym, a kept word in lower case, or any other
word whose first character is its own capital.

A suggested title need not be accepted. Where it is not, one of its words has just turned into a
kept word and goes to lower case in the next round. Words in lower case stay as they are, so
after two rounds every title is accepted (`caseTitle_settles`).
-/

namespace Headline

open Text

theorem WordSet.mem_words {s : WordSet} {word : String} :
    word ∈ s.words ↔ word ∈ s.defaults ∨ word ∈ s.custom := by
  rw [WordSet.words, List.mem_append, List.mem_filter]
  by_cases h : word ∈ s.defaults <;> simp [h]

namespace Casing

variable {g : Casing} {i : Nat} {w : List Char}

/-! ## Single words -/

/-- A word at an offset is kept in lower case: it is one of the words to keep, and if it opens
the title, the caller listed it and allowed that. -/
def Kept (g : Casing) (i : Nat) (w : List Char) : Prop :=
  String.ofList (lowerChars w) ∈ g.words.words ∧
    (i ≠ 0 ∨ g.allowFirst = true ∧ String.ofList (lowerChars w) ∈ g.words.custom)

/-- A word at an offset that needs no mending. -/
inductive Right (g : Casing) (i : Nat) (w : List Char) : Prop where
  /-- an acronym, wherever it stands -/
  | acronym (h : isAcronymChars w = true)
  /-- a kept word in lower case -/
  | kept (h : g.Kept i w) (hlower : lowerChars w = w)
  /-- any other word whose first character is its own capital -/
  | capital (h : ¬g.Kept i w) (hupper : upperChars (w.take 1) = w.take 1)

theorem keepsLower_iff : g.keepsLower (i == 0) w = true ↔ g.Kept i w := by
  have hlower : lower (String.ofList (lowerChars w)) = String.ofList (lowerChars w) := by
    rw [lower, String.toList_ofList, lowerChars_lowerChars]
  simp only [keepsLower, Kept, WordSet.contains, WordSet.isCustom, hlower, WordSet.mem_words,
    Bool.and_eq_true, Bool.or_eq_true, List.contains_iff_mem, Bool.not_eq_true',
    beq_eq_false_iff_ne]

theorem keepsLower_eq_false_iff : g.keepsLower (i == 0) w = false ↔ ¬g.Kept i w := by
  rw [← keepsLower_iff, Bool.not_eq_true]

theorem capitalizeChars_eq_self_iff :
    capitalizeChars w = w ↔ upperChars (w.take 1) = w.take 1 := by
  cases w with
  | nil => simp [capitalizeChars, upperChars]
  | cons c cs =>
      have hsplit : c :: cs = [c] ++ cs := rfl
      rw [capitalizeChars, hsplit, List.append_cancel_right_eq]
      simp [upperChars]

/-- Mending leaves a word alone exactly if the word is right. -/
theorem caseWord_eq_self_iff : g.caseWord (i == 0) w = w ↔ g.Right i w := by
  constructor
  · intro heq
    cases hacronym : isAcronymChars w with
    | true => exact .acronym hacronym
    | false =>
        cases hkept : g.keepsLower (i == 0) w with
        | true =>
            rw [caseWord_kept hacronym hkept] at heq
            exact .kept (keepsLower_iff.mp hkept) heq
        | false =>
            rw [caseWord_capital hacronym hkept] at heq
            exact .capital (keepsLower_eq_false_iff.mp hkept) (capitalizeChars_eq_self_iff.mp heq)
  · intro hright
    cases hacronym : isAcronymChars w with
    | true => exact caseWord_acronym hacronym
    | false =>
        cases hright with
        | acronym h => simp [h] at hacronym
        | kept h hlower => rwa [caseWord_kept hacronym (keepsLower_iff.mpr h)]
        | capital h hupper =>
            rw [caseWord_capital hacronym (keepsLower_eq_false_iff.mpr h)]
            exact capitalizeChars_eq_self_iff.mpr hupper

/-- A word that relapses is in lower case after two rounds, and stays there. -/
theorem Relapses.caseWord_caseWord {opens : Bool} (h : g.Relapses opens w) :
    g.caseWord opens (g.caseWord opens w) = lowerChars (capitalizeChars w) := by
  rw [caseWord_capital h.noAcronym h.notKept, caseWord_kept h.capitalNoAcronym h.capitalKept]

theorem caseWord_lowerChars {opens : Bool} (h : g.keepsLower opens w = true) :
    g.caseWord opens (lowerChars w) = lowerChars w := by
  rw [caseWord_kept (isAcronymChars_lowerChars w) (keepsLower_lowerChars.trans h),
    lowerChars_lowerChars]

/-- **Two rounds settle a word.** -/
theorem caseWord_settles (g : Casing) (opens : Bool) (w : List Char) :
    g.caseWord opens (g.caseWord opens (g.caseWord opens w)) =
      g.caseWord opens (g.caseWord opens w) := by
  by_cases h : g.Relapses opens w
  · rw [h.caseWord_caseWord, caseWord_lowerChars h.capitalKept]
  · rw [caseWord_caseWord h, caseWord_caseWord h]

theorem relapses_iff :
    g.Relapses (i == 0) w ↔
      isAcronymChars w = false ∧ ¬g.Kept i w
        ∧ isAcronymChars (capitalizeChars w) = false ∧ g.Kept i (capitalizeChars w) := by
  constructor
  · intro h
    exact ⟨h.noAcronym, keepsLower_eq_false_iff.mp h.notKept, h.capitalNoAcronym,
      keepsLower_iff.mp h.capitalKept⟩
  · rintro ⟨hno, hnot, hcapital, hkept⟩
    exact ⟨hno, keepsLower_eq_false_iff.mpr hnot, hcapital, keepsLower_iff.mpr hkept⟩

end Casing

/-! ## Titles -/

/-- Nothing is changed by the change that leaves every word alone. -/
theorem mapWords_id (title : List Char) : mapWords (fun _ w => w) title = title := by
  have hchange : mapPieces.change (fun w => w) = id := by
    funext p
    cases p <;> rfl
  have hpieces : mapPieces (fun _ w => w) (pieces title) = pieces title := by
    cases pieces title with
    | nil => rfl
    | cons p ps => rw [mapPieces, hchange, List.map_id, id_eq]
  rw [mapWords, hpieces, flatMap_pieces]

theorem toList_caseTitle (words : WordSet) (allowFirst : Bool) (title : String) :
    (caseTitle words allowFirst title).toList =
      mapWords (Casing.caseWord ⟨words, allowFirst⟩) title.toList := by
  rw [caseTitle, String.toList_ofList, Casing.caseChars_eq_mapWords]

theorem caseTitle_eq_self_iff {words : WordSet} {allowFirst : Bool} {title : String} :
    caseTitle words allowFirst title = title ↔
      ∀ i w, WordAt title.toList i w → Casing.Right ⟨words, allowFirst⟩ i w := by
  have hword := Casing.isWord_caseWord ⟨words, allowFirst⟩
  have hsame : caseTitle words allowFirst title = title ↔
      mapWords (Casing.caseWord ⟨words, allowFirst⟩) title.toList =
        mapWords (fun _ w => w) title.toList := by
    rw [← String.toList_inj, toList_caseTitle, mapWords_id]
  rw [hsame, mapWords_eq_iff (fun opens _ => hword opens) (fun _ _ h => h)]
  exact forall₃_congr fun i w _ => Casing.caseWord_eq_self_iff

/-- **Which titles are accepted.** A title is its own right form exactly if each of its words is
right where it stands. A heading is passed over in silence exactly if its title is known or each
word of it is right. -/
theorem accepted_iff_right (words : WordSet) (allowFirst : Bool) :
    (∀ title, caseTitle words allowFirst title = title ↔
      ∀ i w, WordAt title.toList i w → Casing.Right ⟨words, allowFirst⟩ i w)
    ∧ ∀ (patterns : List Pattern) (h : Block) (index : Int) (l : Ledger) (log : List Log.Entry),
      let o : RuleOptions := ⟨words, allowFirst, patterns⟩
      let title := Check.titleOf o h
      ((Check.heading o h index l).run log).1.1 = none ↔
        title ∈ l.titles
          ∨ ∀ i w, WordAt title.toList i w → Casing.Right ⟨words, allowFirst⟩ i w := by
  refine ⟨fun title => caseTitle_eq_self_iff, ?_⟩
  intro patterns h index l log o title
  rw [Check.heading_yields o h index l log, ← caseTitle_eq_self_iff]
  show (if title ∈ l.titles then none else Check.verdict o h index) = none ↔ _
  by_cases hknown : title ∈ l.titles
  · simp [hknown]
  · rw [if_neg hknown, or_iff_right hknown]
    by_cases hright : caseTitle words allowFirst title = title
    · exact iff_of_true (Check.verdict_eq_none hright) hright
    · refine iff_of_false (fun hnone => ?_) hright
      rw [Check.verdict_eq_some hright] at hnone
      cases hnone

/-- **Corrections settle.** The correction of a correction is accepted. It is not the correction
itself exactly if the title has a word that is to get a capital letter, and with this letter it
is no acronym but a kept word. -/
theorem caseTitle_settles (words : WordSet) (allowFirst : Bool) (title : String) :
    let g : Casing := ⟨words, allowFirst⟩
    let f := caseTitle words allowFirst
    f (f (f title)) = f (f title)
      ∧ (f (f title) ≠ f title ↔
        ∃ i w, WordAt title.toList i w
          ∧ isAcronymChars w = false ∧ ¬g.Kept i w
          ∧ isAcronymChars (capitalizeChars w) = false ∧ g.Kept i (capitalizeChars w)) := by
  intro g f
  have hword : ∀ opens w, IsWord w → IsWord (g.caseWord opens w) :=
    fun opens _ => Casing.isWord_caseWord g opens
  have htwice : (f (f title)).toList =
      mapWords (fun opens w => g.caseWord opens (g.caseWord opens w)) title.toList := by
    rw [toList_caseTitle, toList_caseTitle, mapWords_mapWords hword]
  have hword' : ∀ opens w, IsWord w → IsWord (g.caseWord opens (g.caseWord opens w)) :=
    fun opens w h => hword opens _ (hword opens w h)
  constructor
  · have hsettled : (fun opens w => g.caseWord opens (g.caseWord opens (g.caseWord opens w))) =
        fun opens w => g.caseWord opens (g.caseWord opens w) := by
      funext opens w
      exact Casing.caseWord_settles g opens w
    rw [← String.toList_inj, toList_caseTitle, htwice, mapWords_mapWords hword', hsettled]
  · have hiff : f (f title) = f title ↔
        ∀ i w, WordAt title.toList i w → ¬g.Relapses (i == 0) w := by
      rw [← String.toList_inj, htwice, toList_caseTitle, mapWords_eq_iff hword' hword]
      exact forall₃_congr fun i w _ => Casing.caseWord_caseWord_iff
    rw [Ne, hiff]
    simp only [not_forall, not_not, Casing.relapses_iff, exists_prop]

end Headline
