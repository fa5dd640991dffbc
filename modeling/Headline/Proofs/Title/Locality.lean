import Headline.Proofs.Title.Accepted

/-!
# What the right form of a word depends on

A title is mended word by word, and the right form of a word depends on three things only: the
word itself, whether it opens the title, and whether it is kept in lower case there. So a title
may be cut in two at any separator and its parts be mended one after the other
(`caseTitle_append_separator`), except that no word of the second part opens the title.

The same is true of the configuration. It counts through one question about each word: behind the
start of a title, whether the word in lower case is listed at all; at the start, whether the caller
listed it and allowed it there. Two configurations that give the same answers on the words of a
title give it the same right form (`caseTitle_word_by_word`), whatever else they list.
-/

namespace Headline

open Text

/-! ## Cutting at a separator -/

section Cutting

variable {f : Bool → List Char → List Char} {c : Char}

theorem mapPieces_const (g : List Char → List Char) (ps : List Piece) :
    mapPieces (fun _ => g) ps = ps.map (mapPieces.change g) := by
  cases ps <;> rfl

/-- Behind a gap no word is the first piece, with or without the pieces before the gap. -/
theorem mapPieces_append_gap (ps qs : List Piece) (c : Char) :
    mapPieces f (ps ++ .gap c :: qs) = mapPieces f ps ++ mapPieces f (.gap c :: qs) := by
  cases ps with
  | nil => rfl
  | cons p ps =>
      rw [List.cons_append, mapPieces, mapPieces, mapPieces, List.map_append, List.map_cons]
      rfl

/-- A change of words may be made part by part where no word goes on. -/
theorem mapWords_append {before after : List Char} (h : Breaks after.head?) :
    mapWords f (before ++ after) = mapWords f before ++ mapWords f after := by
  cases after with
  | nil => rw [List.append_nil, mapWords, mapWords, ← List.flatMap_append, pieces, mapPieces,
      List.append_nil]
  | cons c after =>
      rw [mapWords, pieces_append (Or.inr h), pieces_gap (h c rfl), mapPieces_append_gap,
        List.flatMap_append, ← pieces_gap (h c rfl)]
      rfl

/-- A separator in front is copied, and behind it no word opens the title. -/
theorem mapWords_cons (hc : isSeparator c = true) (after : List Char) :
    mapWords f (c :: after) = c :: mapWords (fun _ => f false) after := by
  rw [mapWords, pieces_gap hc, mapPieces, mapWords, mapPieces_const]
  rfl

theorem mapWords_word {w : List Char} (hw : IsWord w) : mapWords f w = f true w := by
  rw [mapWords, pieces_word hw]
  exact List.append_nil _

end Cutting

section Titles

variable {words : WordSet} {allowFirst : Bool} {c : Char}

theorem caseTitle_append {s t : String} (h : Breaks t.toList.head?) :
    caseTitle words allowFirst (s ++ t) =
      caseTitle words allowFirst s ++ caseTitle words allowFirst t := by
  rw [← String.toList_inj, String.toList_append, toList_caseTitle, toList_caseTitle,
    toList_caseTitle, String.toList_append, mapWords_append h]

theorem toList_singleton_append (c : Char) (t : String) :
    (String.singleton c ++ t).toList = c :: t.toList := by
  rw [String.toList_append, String.toList_singleton]
  rfl

theorem caseTitle_singleton_append (hc : isSeparator c = true) (t : String) :
    caseTitle words allowFirst (String.singleton c ++ t) =
      String.singleton c ++
        String.ofList (mapWords (fun _ => Casing.caseWord ⟨words, allowFirst⟩ false) t.toList) := by
  rw [← String.toList_inj, toList_caseTitle, toList_singleton_append, toList_singleton_append,
    mapWords_cons hc, String.toList_ofList]

theorem caseTitle_word {w : List Char} (hw : IsWord w) :
    caseTitle words allowFirst (String.ofList w) =
      String.ofList (Casing.caseWord ⟨words, allowFirst⟩ true w) := by
  rw [← String.toList_inj, toList_caseTitle, String.toList_ofList, String.toList_ofList,
    mapWords_word hw]

end Titles

/-- **Cut at a separator.** The right form of a title that is cut in front of a separator is that
of the first part followed by that of the second. In the second part the separator is copied and
every word has the form that it has away from the start of a title. This form, like that of a
word at the start, is found from the word alone, and so is the case of its letters. -/
theorem caseTitle_append_separator (words : WordSet) (allowFirst : Bool) {c : Char}
    (hc : isSeparator c = true) :
    let g : Casing := ⟨words, allowFirst⟩
    let f := caseTitle words allowFirst
    let sep := String.singleton c
    (∀ s t, f (s ++ sep ++ t) = f s ++ f (sep ++ t))
      ∧ (∀ t, f (sep ++ t) = sep ++ String.ofList (mapWords (fun _ => g.caseWord false) t.toList))
      ∧ ∀ w, IsWord w →
        f (String.ofList w) = String.ofList (g.caseWord true w)
          ∧ f (sep ++ String.ofList w) = sep ++ String.ofList (g.caseWord false w) := by
  intro g f sep
  refine ⟨fun s t => ?_, caseTitle_singleton_append hc, fun w hw => ⟨caseTitle_word hw, ?_⟩⟩
  · have hbreak : Breaks (sep ++ t).toList.head? := by
      rw [toList_singleton_append]
      intro d hd
      cases hd
      exact hc
    rw [String.append_assoc]
    exact caseTitle_append hbreak
  · have hlater : f (sep ++ String.ofList w) = _ := caseTitle_singleton_append hc _
    rwa [String.toList_ofList, mapWords_word hw] at hlater

/-- The hyphen keeps "Of" away from the start, and the sigma before it at the end of its word. -/
theorem caseTitle_append_separator_hyphen :
    let f := caseTitle (.ofWords defaultWords ["ΟΔΟΣ"]) true
    isSeparator '-' = true
      ∧ f ("οδοΣ" ++ String.singleton '-' ++ "Of truth") =
        f "οδοΣ" ++ f (String.singleton '-' ++ "Of truth")
      ∧ f ("οδοΣ" ++ String.singleton '-' ++ "Of truth") = "οδος-of Truth" := by
  intro f
  have hc : isSeparator '-' = true := by decide +kernel
  refine ⟨hc, (caseTitle_append_separator (.ofWords defaultWords ["ΟΔΟΣ"]) true hc).1 _ _, ?_⟩
  decide +kernel

/-! ## Configurations -/

theorem WordSet.mem_custom_ofWords {defaults custom : List String} {x : String} :
    x ∈ (ofWords defaults custom).custom ↔ x ∈ custom.map lower :=
  List.mem_eraseDups

theorem WordSet.mem_words_ofWords {defaults custom : List String} {x : String} :
    x ∈ (ofWords defaults custom).words ↔ x ∈ (defaults ++ custom).map lower := by
  rw [mem_words, List.map_append, List.mem_append]
  exact or_congr List.mem_eraseDups List.mem_eraseDups

namespace Casing

variable {g g' : Casing} {i : Nat} {w : List Char} {title : String}

theorem kept_iff_of_ne (hi : i ≠ 0) :
    g.Kept i w ↔ String.ofList (lowerChars w) ∈ g.words.words :=
  and_iff_left (Or.inl hi)

/-- Whether a word is a default does not count at the start of a title. -/
theorem kept_zero_iff :
    g.Kept 0 w ↔ g.allowFirst = true ∧ String.ofList (lowerChars w) ∈ g.words.custom := by
  constructor
  · rintro ⟨-, h⟩
    exact h.resolve_left (absurd rfl)
  · intro h
    exact ⟨WordSet.mem_words.mpr (Or.inr h.2), Or.inr h⟩

/-- Two configurations give the same answers on the words of a title: behind its start they list
the same words, and at its start they allow the same word of the caller. -/
structure AlikeOn (title : List Char) (g g' : Casing) : Prop where
  later : ∀ i w, WordAt title i w → i ≠ 0 →
    (String.ofList (lowerChars w) ∈ g.words.words ↔ String.ofList (lowerChars w) ∈ g'.words.words)
  opening : ∀ w, WordAt title 0 w →
    (g.allowFirst = true ∧ String.ofList (lowerChars w) ∈ g.words.custom ↔
      g'.allowFirst = true ∧ String.ofList (lowerChars w) ∈ g'.words.custom)

theorem AlikeOn.kept_iff (h : AlikeOn title.toList g g') (hw : WordAt title.toList i w) :
    g.Kept i w ↔ g'.Kept i w := by
  by_cases hi : i = 0
  · subst hi
    rw [kept_zero_iff, kept_zero_iff]
    exact h.opening w hw
  · rw [kept_iff_of_ne hi, kept_iff_of_ne hi]
    exact h.later i w hw hi

theorem caseWord_congr (h : g.Kept i w ↔ g'.Kept i w) :
    g.caseWord (i == 0) w = g'.caseWord (i == 0) w := by
  have hkeeps : g.keepsLower (i == 0) w = g'.keepsLower (i == 0) w := by
    rw [Bool.eq_iff_iff, keepsLower_iff, keepsLower_iff]
    exact h
  rw [caseWord_eq, caseWord_eq, hkeeps]

/-- What two configurations say of other words does not matter. -/
theorem AlikeOn.caseTitle_eq (h : AlikeOn title.toList g g') :
    caseTitle g.words g.allowFirst title = caseTitle g'.words g'.allowFirst title := by
  rw [← String.toList_inj, toList_caseTitle, toList_caseTitle,
    mapWords_eq_iff (fun opens _ => isWord_caseWord g opens)
      (fun opens _ => isWord_caseWord g' opens)]
  intro i w hw
  exact caseWord_congr (h.kept_iff hw)

end Casing

/-- No word of a title that starts with a separator stands at its start. -/
theorem Breaks.not_wordAt_zero {title : List Char} (h : Breaks title.head?) (w : List Char) :
    ¬WordAt title 0 w := by
  rintro ⟨before, after, rfl, hlen, hw, -, -⟩
  obtain rfl := List.length_eq_zero_iff.mp hlen
  obtain ⟨c, cs, rfl⟩ := List.exists_cons_of_ne_nil hw.nonempty
  have hsep := h c rfl
  rw [hw.joined c (List.mem_cons_self ..)] at hsep
  cases hsep

/-! ## Words as they are listed -/

namespace Casing

variable {title : List Char} {defaults defaults' custom custom' : List String}
  {allowFirst allowFirst' : Bool}

/-- Lists of words are alike on a title if the words of the title in lower case do not tell them
apart. -/
theorem alikeOn_ofWords
    (hlisted : ∀ i w, WordAt title i w →
      (String.ofList (lowerChars w) ∈ (defaults ++ custom).map lower ↔
        String.ofList (lowerChars w) ∈ (defaults' ++ custom').map lower))
    (hcustom : ∀ i w, WordAt title i w →
      (String.ofList (lowerChars w) ∈ custom.map lower ↔
        String.ofList (lowerChars w) ∈ custom'.map lower)) :
    AlikeOn title ⟨.ofWords defaults custom, allowFirst⟩
      ⟨.ofWords defaults' custom', allowFirst⟩ where
  later i w hw _ := by
    rw [WordSet.mem_words_ofWords, WordSet.mem_words_ofWords]
    exact hlisted i w hw
  opening w hw := by
    rw [WordSet.mem_custom_ofWords, WordSet.mem_custom_ofWords]
    exact and_congr_right fun _ => hcustom 0 w hw

/-- Behind a separator it does not matter whose words they are, nor what they are allowed. -/
theorem alikeOn_of_breaks (h : Breaks title.head?)
    (hlisted : ∀ x, x ∈ (defaults ++ custom).map lower ↔ x ∈ (defaults' ++ custom').map lower) :
    AlikeOn title ⟨.ofWords defaults custom, allowFirst⟩
      ⟨.ofWords defaults' custom', allowFirst'⟩ where
  later i w _ _ := by
    rw [WordSet.mem_words_ofWords, WordSet.mem_words_ofWords]
    exact hlisted _
  opening w hw := absurd hw (h.not_wordAt_zero w)

end Casing

/-- **Configurations act word by word.** A title has the same right form under two configurations
that give the same answers on its words. So the order, the repetitions and the letter case of the
words that are listed do not matter, and a word of the caller that is no word of the title in lower
case may as well be left out. Under configurations that list the same words in all, the right
forms differ in the word at the start of the title if anywhere, and not at all if the title starts
with a separator. And which words are defaults does not matter to the word at the start. -/
theorem caseTitle_word_by_word (title : String) :
    (∀ g g' : Casing, g.AlikeOn title.toList g' →
        caseTitle g.words g.allowFirst title = caseTitle g'.words g'.allowFirst title)
      ∧ (∀ (defaults defaults' custom custom' : List String) (allowFirst : Bool),
        (∀ x, x ∈ defaults.map lower ↔ x ∈ defaults'.map lower) →
        (∀ x, x ∈ custom.map lower ↔ x ∈ custom'.map lower) →
          caseTitle (.ofWords defaults custom) allowFirst title =
            caseTitle (.ofWords defaults' custom') allowFirst title)
      ∧ (∀ (defaults custom more : List String) (allowFirst : Bool),
        (∀ x ∈ more, ∀ i w, WordAt title.toList i w → lower x ≠ String.ofList (lowerChars w)) →
          caseTitle (.ofWords defaults (custom ++ more)) allowFirst title =
            caseTitle (.ofWords defaults custom) allowFirst title)
      ∧ (∀ (defaults defaults' custom custom' : List String) (allowFirst allowFirst' : Bool),
        (∀ x, x ∈ (defaults ++ custom).map lower ↔ x ∈ (defaults' ++ custom').map lower) →
          let f := caseTitle (.ofWords defaults custom) allowFirst
          let f' := caseTitle (.ofWords defaults' custom') allowFirst'
          (Breaks title.toList.head? → f title = f' title)
            ∧ ∀ first rest, title = first ++ rest → Breaks rest.toList.head? →
              f title = f first ++ f rest ∧ f' title = f' first ++ f rest)
      ∧ ∀ (defaults defaults' custom : List String) (allowFirst : Bool) (w : List Char),
        Casing.caseWord ⟨.ofWords defaults custom, allowFirst⟩ true w =
          Casing.caseWord ⟨.ofWords defaults' custom, allowFirst⟩ true w := by
  refine ⟨fun g g' h => h.caseTitle_eq, ?_, ?_, ?_, ?_⟩
  · intro defaults defaults' custom custom' allowFirst hdefaults hcustom
    have halike : Casing.AlikeOn title.toList ⟨.ofWords defaults custom, allowFirst⟩
        ⟨.ofWords defaults' custom', allowFirst⟩ := by
      refine Casing.alikeOn_ofWords (fun i w _ => ?_) (fun i w _ => hcustom _)
      rw [List.map_append, List.map_append, List.mem_append, List.mem_append, hdefaults, hcustom]
    exact halike.caseTitle_eq
  · intro defaults custom more allowFirst hmore
    -- none of the words that are added is asked for
    have hadded : ∀ i w, WordAt title.toList i w →
        String.ofList (lowerChars w) ∉ more.map lower := by
      intro i w hw hmem
      obtain ⟨x, hx, heq⟩ := List.mem_map.mp hmem
      exact hmore x hx i w hw heq
    have halike : Casing.AlikeOn title.toList ⟨.ofWords defaults (custom ++ more), allowFirst⟩
        ⟨.ofWords defaults custom, allowFirst⟩ := by
      refine Casing.alikeOn_ofWords (fun i w hw => ?_) (fun i w hw => ?_)
      · rw [← List.append_assoc, List.map_append, List.mem_append, or_iff_left (hadded i w hw)]
      · rw [List.map_append, List.mem_append, or_iff_left (hadded i w hw)]
    exact halike.caseTitle_eq
  · intro defaults defaults' custom custom' allowFirst allowFirst' hlisted f f'
    have hbehind : ∀ t : String, Breaks t.toList.head? → f t = f' t := fun t ht =>
      (Casing.alikeOn_of_breaks ht hlisted).caseTitle_eq
    refine ⟨hbehind title, ?_⟩
    rintro first rest rfl hrest
    refine ⟨caseTitle_append hrest, ?_⟩
    rw [hbehind rest hrest]
    exact caseTitle_append hrest
  · intro defaults defaults' custom allowFirst w
    refine Casing.caseWord_congr (i := 0) ?_
    rw [Casing.kept_zero_iff, Casing.kept_zero_iff]
    exact Iff.rfl

end Headline
