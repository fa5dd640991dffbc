import Headline.Proofs.Title.Accepted

/-!
# What title case leaves as it is

Title case changes letters and nothing else. What stands between the words of a title stays as it
is, to the character, and each word stays a word. That is not a matter of offsets: a word may get
longer ("ß" has the capital "SS"), and then all that follows is moved.

How a title is cut at its words is said here without cutting it (`CutFrom`). Such a cut can be
read off from pieces in one way only (`cutFrom_iff`), and a change of words in place leaves the
gaps of it alone and puts its words in the place of those before.
-/

namespace Headline

open Text

/-! ## Cuts -/

/-- Characters from an offset on, cut at their words: what stands in front of each word and behind
the last one, and the words with their offsets. A word goes on until a separator or the end. -/
inductive CutFrom : Nat → List Char → List (List Char) → List (Nat × List Char) → Prop where
  /-- no word is left -/
  | last (i : Nat) {gap : List Char} (hgap : ∀ c ∈ gap, isSeparator c = true) :
      CutFrom i gap [gap] []
  /-- a gap, a word, and the rest behind it -/
  | word {i : Nat} {gap w rest : List Char} {gaps : List (List Char)}
      {words : List (Nat × List Char)} (hgap : ∀ c ∈ gap, isSeparator c = true) (hw : IsWord w)
      (hnext : Breaks rest.head?) (hrest : CutFrom (i + gap.length + w.length) rest gaps words) :
      CutFrom i (gap ++ (w ++ rest)) (gap :: gaps) ((i + gap.length, w) :: words)

theorem CutFrom.isWord {i : Nat} {cs : List Char} {gaps : List (List Char)}
    {words : List (Nat × List Char)} (h : CutFrom i cs gaps words) :
    ∀ x ∈ words, IsWord x.2 := by
  induction h with
  | last i hgap => exact nofun
  | word hgap hw hnext hrest ih => exact List.forall_mem_cons.mpr ⟨hw, ih⟩

/-- A separator in front belongs to the first gap. -/
theorem CutFrom.cons {i : Nat} {c : Char} {cs : List Char} {gaps : List (List Char)}
    {words : List (Nat × List Char)} (hc : isSeparator c = true)
    (h : CutFrom (i + 1) cs gaps words) :
    CutFrom i (c :: cs) (gaps.modifyHead (c :: ·)) words := by
  cases h with
  | last _ hgap => exact .last i (List.forall_mem_cons.mpr ⟨hc, hgap⟩)
  | @word _ gap w rest gaps words hgap hw hnext hrest =>
      have hoffset : i + 1 + gap.length = i + (c :: gap).length := by
        rw [List.length_cons]
        omega
      rw [hoffset] at hrest ⊢
      exact .word (List.forall_mem_cons.mpr ⟨hc, hgap⟩) hw hnext hrest

/-! ## Reading off pieces -/

/-- What stands around the words among pieces. -/
def gapsOf : List Piece → List (List Char)
  | [] => [[]]
  | .gap c :: ps => (gapsOf ps).modifyHead (c :: ·)
  | .word _ :: ps => [] :: gapsOf ps

/-- The words among pieces that stand from an offset on, with their own offsets. -/
def wordsOf (i : Nat) : List Piece → List (Nat × List Char)
  | [] => []
  | .gap _ :: ps => wordsOf (i + 1) ps
  | .word w :: ps => (i, w) :: wordsOf (i + w.length) ps

theorem WellCut.cutFrom {ps : List Piece} (h : WellCut ps) (i : Nat) :
    CutFrom i (ps.flatMap Piece.chars) (gapsOf ps) (wordsOf i ps) := by
  induction ps generalizing i with
  | nil => exact .last i nofun
  | cons p ps ih =>
      obtain ⟨hp, hps⟩ := List.forall_mem_cons.mp h.proper
      obtain ⟨-, hapart⟩ := List.isChain_cons.mp h.apart
      have hrest := ih ⟨hps, hapart⟩
      cases p with
      | gap c => exact (hrest (i + 1)).cons hp
      | word w =>
          have hnext := h.breaks_of_cons
          exact @CutFrom.word i [] w _ _ _ nofun hp hnext (hrest (i + w.length))

theorem pieces_gaps {gap : List Char} (hgap : ∀ c ∈ gap, isSeparator c = true) (cs : List Char) :
    pieces (gap ++ cs) = gap.map .gap ++ pieces cs := by
  induction gap with
  | nil => rfl
  | cons c gap ih =>
      obtain ⟨hc, hgap⟩ := List.forall_mem_cons.mp hgap
      rw [List.cons_append, pieces_gap hc, ih hgap]
      rfl

theorem gapsOf_gaps (gap : List Char) (ps : List Piece) :
    gapsOf (gap.map .gap ++ ps) = (gapsOf ps).modifyHead (gap ++ ·) := by
  induction gap with
  | nil =>
      rw [List.map_nil, List.nil_append]
      cases gapsOf ps <;> rfl
  | cons c gap ih =>
      rw [List.map_cons, List.cons_append, gapsOf, ih]
      cases gapsOf ps <;> rfl

theorem wordsOf_gaps (i : Nat) (gap : List Char) (ps : List Piece) :
    wordsOf i (gap.map .gap ++ ps) = wordsOf (i + gap.length) ps := by
  induction gap generalizing i with
  | nil => rfl
  | cons c gap ih =>
      have hoffset : i + 1 + gap.length = i + (c :: gap).length := by
        rw [List.length_cons]
        omega
      rw [List.map_cons, List.cons_append, wordsOf, ih, hoffset]

/-- **One cut.** Characters are cut at their words in one way, which is that of their pieces. -/
theorem cutFrom_iff {i : Nat} {cs : List Char} {gaps : List (List Char)}
    {words : List (Nat × List Char)} :
    CutFrom i cs gaps words ↔ gaps = gapsOf (pieces cs) ∧ words = wordsOf i (pieces cs) := by
  constructor
  · intro h
    induction h with
    | @last i gap hgap =>
        have hpieces : pieces gap = gap.map .gap ++ [] := by
          have hgaps := pieces_gaps hgap []
          rwa [List.append_nil] at hgaps
        rw [hpieces, gapsOf_gaps, wordsOf_gaps]
        exact ⟨by rw [gapsOf, List.modifyHead_cons, List.append_nil], rfl⟩
    | @word i gap w rest gaps words hgap hw hnext hrest ih =>
        have hpieces : pieces (gap ++ (w ++ rest)) = gap.map .gap ++ .word w :: pieces rest := by
          rw [pieces_gaps hgap, pieces_append (Or.inr hnext), pieces_word hw]
          rfl
        obtain ⟨hgaps, hwords⟩ := ih
        rw [hpieces, gapsOf_gaps, wordsOf_gaps, gapsOf, wordsOf, List.modifyHead_cons,
          List.append_nil, hgaps, hwords]
        exact ⟨rfl, rfl⟩
  · rintro ⟨rfl, rfl⟩
    have h := (wellCut_pieces cs).cutFrom i
    rwa [flatMap_pieces] at h

/-! ## Changes of words -/

section Changes

variable {f : Bool → List Char → List Char}

theorem gapsOf_mapPieces (ps : List Piece) : gapsOf (mapPieces f ps) = gapsOf ps := by
  have hmap : ∀ ps : List Piece, gapsOf (ps.map (mapPieces.change (f false))) = gapsOf ps := by
    intro ps
    induction ps with
    | nil => rfl
    | cons p ps ih => cases p <;> simp only [List.map_cons, mapPieces.change, gapsOf, ih]
  cases ps with
  | nil => rfl
  | cons p ps => cases p <;> simp only [mapPieces, mapPieces.change, gapsOf, hmap]

theorem le_of_mem_wordsOf {i : Nat} {ps : List Piece} {x : Nat × List Char}
    (hx : x ∈ wordsOf i ps) : i ≤ x.1 := by
  induction ps generalizing i with
  | nil => cases hx
  | cons p ps ih =>
      cases p with
      | gap c =>
          have hrest := ih hx
          omega
      | word w =>
          rcases List.mem_cons.mp hx with rfl | hx
          · exact Nat.le_refl _
          · have hrest := ih hx
            omega

theorem wordsOf_map_change (g : List Char → List Char) (i j : Nat) (ps : List Piece) :
    (wordsOf j (ps.map (mapPieces.change g))).map (·.2) = (wordsOf i ps).map (g ·.2) := by
  induction ps generalizing i j with
  | nil => rfl
  | cons p ps ih =>
      cases p with
      | gap c => exact ih (i + 1) (j + 1)
      | word w =>
          simp only [List.map_cons, mapPieces.change, wordsOf]
          rw [ih (i + w.length)]

/-- The words keep their order. The first piece is the only one at offset 0. -/
theorem wordsOf_mapPieces {ps : List Piece} (h : WellCut ps) :
    (wordsOf 0 (mapPieces f ps)).map (·.2) =
      (wordsOf 0 ps).map fun x => f (x.1 == 0) x.2 := by
  -- behind the first piece no word stands at offset 0
  have hlater : ∀ {i j : Nat} (ps : List Piece), 0 < i →
      (wordsOf j (ps.map (mapPieces.change (f false)))).map (·.2) =
        (wordsOf i ps).map fun x => f (x.1 == 0) x.2 := by
    intro i j ps hi
    rw [wordsOf_map_change (f false) i j]
    refine List.map_congr_left fun x hx => ?_
    have hle := le_of_mem_wordsOf hx
    rw [beq_false_of_ne (by omega)]
  cases ps with
  | nil => rfl
  | cons p ps =>
      cases p with
      | gap c => exact hlater ps Nat.zero_lt_one
      | word w =>
          have hw : IsWord w := h.proper _ (List.mem_cons_self ..)
          have hpos := List.length_pos_iff.mpr hw.nonempty
          simp only [mapPieces, mapPieces.change, wordsOf, List.map_cons, Nat.zero_add]
          rw [hlater ps hpos]
          rfl

end Changes

/-! ## Case and nothing else -/

theorem upperChars_capitalizeChars (w : List Char) :
    upperChars (capitalizeChars w) = upperChars w := by
  cases w with
  | nil => rfl
  | cons c cs =>
      have hcapital : (upperChar c).flatMap upperChar = upperChar c := by
        have hself : (upperChar c).flatMap upperChar = (upperChar c).flatMap fun d => [d] :=
          List.flatMap_congr fun d hd => upperChar_of_mem hd
        rw [hself, List.flatMap_singleton']
      rw [capitalizeChars, upperChars, List.flatMap_append, hcapital]
      rfl

/-- A word and its right form differ in case only. -/
theorem Casing.caseWord_alike (g : Casing) (opens : Bool) (w : List Char) :
    lowerChars (g.caseWord opens w) = lowerChars w
      ∨ upperChars (g.caseWord opens w) = upperChars w := by
  rw [caseWord_eq]
  split
  · exact Or.inl rfl
  · split
    · exact Or.inl (lowerChars_lowerChars w)
    · exact Or.inr (upperChars_capitalizeChars w)

/-- **Case and nothing else.** A title and its right form are each cut at their words in one way.
The gaps are the same, and the words of the right form are the right forms of the words, in the
same order. Each of these is a word, and differs from the one before in case only. -/
theorem caseTitle_keeps_gaps (words : WordSet) (allowFirst : Bool) (title : String) :
    let g : Casing := ⟨words, allowFirst⟩
    ∃ gaps ws us,
      (∀ gaps' ws', CutFrom 0 title.toList gaps' ws' ↔ gaps' = gaps ∧ ws' = ws)
        ∧ (∀ gaps' us', CutFrom 0 (caseTitle words allowFirst title).toList gaps' us' ↔
          gaps' = gaps ∧ us' = us)
        ∧ us.map (·.2) = ws.map (fun x => g.caseWord (x.1 == 0) x.2)
        ∧ ∀ x ∈ ws,
          let u := g.caseWord (x.1 == 0) x.2
          IsWord u ∧ (lowerChars u = lowerChars x.2 ∨ upperChars u = upperChars x.2) := by
  intro g
  have hword : ∀ opens w, IsWord w → IsWord (g.caseWord opens w) :=
    fun opens _ => Casing.isWord_caseWord g opens
  have hpieces : pieces (caseTitle words allowFirst title).toList =
      mapPieces g.caseWord (pieces title.toList) := by
    rw [toList_caseTitle, pieces_mapWords hword]
  have hcut : CutFrom 0 title.toList _ _ := cutFrom_iff.mpr ⟨rfl, rfl⟩
  refine ⟨_, _, _, fun _ _ => cutFrom_iff, fun _ _ => ?_,
    wordsOf_mapPieces (wellCut_pieces title.toList), fun x hx => ?_⟩
  · rw [cutFrom_iff, hpieces, gapsOf_mapPieces]
  · exact ⟨hword _ _ (hcut.isWord x hx), g.caseWord_alike _ _⟩

/-- The capital of "ß" moves what follows it. -/
example : caseTitle (.ofWords defaultWords []) false "  ß-to the\tb" = "  SS-to the\tB" := by
  decide +kernel

end Headline
