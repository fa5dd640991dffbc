import Headline.Title.Case
import Mathlib.Data.List.Chain

/-!
# Words in their places

A title is cut into separators and words, and the right form of a title mends its words one by
one. This is a change of words in place (`mapWords`), and what is said here holds of every such
change that leaves words to be words: the title that it makes has the words that it made, in the
same places (`pieces_mapWords`). So two changes come one after the other as one
(`mapWords_mapWords`), and they agree on a title exactly if they agree on each of its words
(`mapWords_eq_iff`).

The words of a title are described without cutting it: a word stands between two ends of the
title or separators (`WordAt`).
-/

namespace Headline

/-- Characters that can be a word: there are some, and none of them is a separator. -/
structure IsWord (w : List Char) : Prop where
  nonempty : w ≠ []
  joined : ∀ c ∈ w, isSeparator c = false

/-- A place between characters where no word goes on: the end of a title or next to a separator. -/
def Breaks (next : Option Char) : Prop := ∀ c ∈ next, isSeparator c = true

/-- The word at an offset of a title: a maximal run of characters that are no separators. -/
def WordAt (title : List Char) (i : Nat) (w : List Char) : Prop :=
  ∃ before after, title = before ++ (w ++ after) ∧ before.length = i ∧ IsWord w
    ∧ Breaks before.getLast? ∧ Breaks after.head?

/-! ## Cutting -/

/-- A character in front of pieces, for one that is no separator: it is put in front of the first
piece if that is a word, and is a word of its own otherwise. -/
def extendFirst (c : Char) : List Piece → List Piece
  | .word w :: ps => .word (c :: w) :: ps
  | ps => .word [c] :: ps

theorem flatMap_extendFirst (c : Char) (ps : List Piece) :
    (extendFirst c ps).flatMap Piece.chars = c :: ps.flatMap Piece.chars := by
  rcases ps with _ | ⟨d | w, ps⟩ <;> rfl

/-- What stands behind the first piece does not matter. -/
theorem extendFirst_append (c : Char) {ps : List Piece} (hps : ps ≠ []) (qs : List Piece) :
    extendFirst c (ps ++ qs) = extendFirst c ps ++ qs := by
  rcases ps with _ | ⟨d | w, ps⟩
  · exact absurd rfl hps
  · rfl
  · rfl

theorem pieces_gap {c : Char} (hc : isSeparator c = true) (cs : List Char) :
    pieces (c :: cs) = .gap c :: pieces cs := by
  rw [pieces, if_pos hc]

theorem pieces_joined {c : Char} (hc : isSeparator c = false) (cs : List Char) :
    pieces (c :: cs) = extendFirst c (pieces cs) := by
  rw [pieces, if_neg (by rw [hc]; exact Bool.false_ne_true)]
  rcases pieces cs with _ | ⟨d | w, ps⟩ <;> rfl

theorem pieces_ne_nil (c : Char) (cs : List Char) : pieces (c :: cs) ≠ [] := by
  cases hc : isSeparator c with
  | true =>
      rw [pieces_gap hc]
      exact List.cons_ne_nil _ _
  | false =>
      rw [pieces_joined hc]
      rcases pieces cs with _ | ⟨d | w, ps⟩ <;> exact List.cons_ne_nil _ _

/-- Before a break, a character is a word of its own. -/
theorem pieces_single {c : Char} (hc : isSeparator c = false) {cs : List Char}
    (h : Breaks cs.head?) : pieces (c :: cs) = .word [c] :: pieces cs := by
  rw [pieces_joined hc]
  cases cs with
  | nil => rfl
  | cons d ds =>
      rw [pieces_gap (h d rfl)]
      rfl

/-- The pieces of a title hold all of it. -/
theorem flatMap_pieces : ∀ cs : List Char, (pieces cs).flatMap Piece.chars = cs
  | [] => rfl
  | c :: cs => by
      have ih := flatMap_pieces cs
      cases hc : isSeparator c with
      | true =>
          rw [pieces_gap hc, List.flatMap_cons, ih]
          rfl
      | false => rw [pieces_joined hc, flatMap_extendFirst, ih]

/-- **Cutting in two.** A title may be cut in two wherever no word goes on. -/
theorem pieces_append : ∀ {before after : List Char},
    Breaks before.getLast? ∨ Breaks after.head? →
    pieces (before ++ after) = pieces before ++ pieces after
  | [], after, _ => rfl
  | [c], after, h => by
      cases hc : isSeparator c with
      | true =>
          rw [List.cons_append, pieces_gap hc, pieces_gap hc]
          rfl
      | false =>
          have hafter : Breaks after.head? := h.resolve_left fun hlast => by
            rw [hlast c rfl] at hc
            cases hc
          have hone : pieces [c] = [.word [c]] := pieces_single hc nofun
          rw [List.cons_append, List.nil_append, pieces_single hc hafter, hone]
          rfl
  | c :: d :: cs, after, h => by
      have ih : pieces (d :: cs ++ after) = pieces (d :: cs) ++ pieces after :=
        pieces_append (h.imp (fun hlast => by rwa [List.getLast?_cons_cons] at hlast) id)
      rw [List.cons_append]
      cases hc : isSeparator c with
      | true =>
          rw [pieces_gap hc, pieces_gap hc, ih]
          rfl
      | false =>
          rw [pieces_joined hc, pieces_joined hc, ih,
            extendFirst_append c (pieces_ne_nil d cs)]

theorem pieces_word : ∀ {w : List Char}, IsWord w → pieces w = [.word w]
  | [], h => absurd rfl h.nonempty
  | [c], h => pieces_single (h.joined c (List.mem_singleton_self c)) nofun
  | c :: d :: cs, h => by
      have hrest : IsWord (d :: cs) :=
        ⟨List.cons_ne_nil _ _, fun e he => h.joined e (List.mem_cons_of_mem _ he)⟩
      rw [pieces_joined (h.joined c (List.mem_cons_self ..)), pieces_word hrest]
      rfl

/-! ## Lists of pieces that are cut like titles -/

namespace Piece

/-- Gaps are separators, words are words. -/
def Proper : Piece → Prop
  | gap c => isSeparator c = true
  | word w => IsWord w

/-- Two words do not follow each other. -/
def Apart : Piece → Piece → Prop
  | word _, word _ => False
  | _, _ => True

theorem apart_gap (p : Piece) (c : Char) : p.Apart (.gap c) := by
  cases p <;> trivial

theorem gap_apart (c : Char) (p : Piece) : Piece.Apart (.gap c) p := trivial

end Piece

/-- Pieces as they come from a title. -/
structure WellCut (ps : List Piece) : Prop where
  proper : ∀ p ∈ ps, p.Proper
  apart : ps.IsChain Piece.Apart

theorem WellCut.cons {p : Piece} {ps : List Piece} (hp : p.Proper) (h : WellCut ps)
    (hnext : ∀ q ∈ ps.head?, p.Apart q) : WellCut (p :: ps) :=
  ⟨List.forall_mem_cons.mpr ⟨hp, h.proper⟩, List.isChain_cons.mpr ⟨hnext, h.apart⟩⟩

theorem WellCut.extendFirst {c : Char} (hc : isSeparator c = false) {ps : List Piece}
    (h : WellCut ps) : WellCut (extendFirst c ps) := by
  have hone : IsWord [c] := ⟨List.cons_ne_nil _ _, fun d hd => by rwa [List.mem_singleton.mp hd]⟩
  rcases ps with _ | ⟨d | w, ps⟩
  · exact h.cons hone nofun
  · refine h.cons hone fun q hq => ?_
    cases hq
    exact Piece.apart_gap _ _
  · obtain ⟨hw, hps⟩ := List.forall_mem_cons.mp h.proper
    obtain ⟨hnext, hapart⟩ := List.isChain_cons.mp h.apart
    have hword : IsWord (c :: w) := ⟨List.cons_ne_nil _ _, List.forall_mem_cons.mpr ⟨hc, hw.joined⟩⟩
    have hrest : WellCut ps := ⟨hps, hapart⟩
    refine hrest.cons hword fun q hq => ?_
    cases q with
    | gap d => trivial
    | word v => exact (hnext _ hq).elim

theorem wellCut_pieces : ∀ cs : List Char, WellCut (pieces cs)
  | [] => ⟨nofun, List.isChain_nil⟩
  | c :: cs => by
      have ih := wellCut_pieces cs
      cases hc : isSeparator c with
      | true =>
          rw [pieces_gap hc]
          exact ih.cons hc fun q _ => Piece.gap_apart c q
      | false =>
          rw [pieces_joined hc]
          exact ih.extendFirst hc

/-- Behind a word no word goes on. -/
theorem WellCut.breaks_of_cons {w : List Char} {ps : List Piece} (h : WellCut (.word w :: ps)) :
    Breaks (ps.flatMap Piece.chars).head? := by
  obtain ⟨-, hps⟩ := List.forall_mem_cons.mp h.proper
  obtain ⟨hnext, -⟩ := List.isChain_cons.mp h.apart
  rcases ps with _ | ⟨d | v, ps⟩
  · exact nofun
  · intro c hc
    cases hc
    exact hps _ (List.mem_cons_self ..)
  · exact (hnext _ rfl).elim

/-- **Cutting again.** Pieces that are cut like a title are those of the title they make up. -/
theorem pieces_flatMap : ∀ {ps : List Piece}, WellCut ps → pieces (ps.flatMap Piece.chars) = ps
  | [], _ => rfl
  | p :: ps, h => by
      obtain ⟨hp, hps⟩ := List.forall_mem_cons.mp h.proper
      obtain ⟨-, hapart⟩ := List.isChain_cons.mp h.apart
      have ih := pieces_flatMap ⟨hps, hapart⟩
      rw [List.flatMap_cons]
      cases p with
      | gap c =>
          rw [Piece.chars, List.cons_append, List.nil_append, pieces_gap hp, ih]
      | word w =>
          rw [Piece.chars, pieces_append (Or.inr h.breaks_of_cons), pieces_word hp, ih]
          rfl

/-! ## Words and their places -/

/-- The words among pieces; `opens` says that a word is the first piece. -/
def WordIn : List Piece → Bool → List Char → Prop
  | [], _, _ => False
  | p :: ps, opens, w => (opens = true ∧ p = .word w) ∨ (opens = false ∧ .word w ∈ ps)

theorem wordIn_append {as bs : List Piece} {w : List Char} :
    WordIn (as ++ .word w :: bs) as.isEmpty w := by
  cases as with
  | nil => exact Or.inl ⟨rfl, rfl⟩
  | cons p as => exact Or.inr ⟨rfl, List.mem_append_right _ (List.mem_cons_self ..)⟩

theorem WordIn.exists_append {opens : Bool} {w : List Char} {ps : List Piece}
    (h : WordIn ps opens w) : ∃ as bs, ps = as ++ .word w :: bs ∧ opens = as.isEmpty := by
  cases ps with
  | nil => exact h.elim
  | cons p ps =>
      rcases h with ⟨rfl, rfl⟩ | ⟨rfl, h⟩
      · exact ⟨[], ps, rfl, rfl⟩
      · obtain ⟨as, bs, rfl⟩ := List.append_of_mem h
        exact ⟨p :: as, bs, rfl, rfl⟩

theorem WellCut.of_append {as bs : List Piece} (h : WellCut (as ++ bs)) :
    WellCut as ∧ WellCut bs := by
  obtain ⟨has, hbs⟩ := List.forall_mem_append.mp h.proper
  obtain ⟨hchain, hchain', -⟩ := List.isChain_append.mp h.apart
  exact ⟨⟨has, hchain⟩, ⟨hbs, hchain'⟩⟩

/-- Before a word no word ends. -/
theorem WellCut.breaks_of_append : ∀ {as bs : List Piece} {w : List Char},
    WellCut (as ++ .word w :: bs) → Breaks (as.flatMap Piece.chars).getLast?
  | [], bs, w, _ => nofun
  | p :: as, bs, w, h => by
      obtain ⟨hp, hps⟩ := List.forall_mem_cons.mp h.proper
      obtain ⟨hnext, hapart⟩ := List.isChain_cons.mp h.apart
      have hrest : WellCut (as ++ .word w :: bs) := ⟨hps, hapart⟩
      have ih := hrest.breaks_of_append
      rw [List.flatMap_cons, List.getLast?_append]
      cases hlast : (as.flatMap Piece.chars).getLast? with
      | some c =>
          rw [hlast] at ih
          exact ih
      | none =>
          -- there is no piece in between, so this one is a gap
          have hnil : as = [] := by
            rw [List.getLast?_eq_none_iff] at hlast
            rw [← pieces_flatMap hrest.of_append.1, hlast]
            rfl
          subst hnil
          cases p with
          | gap c =>
              intro d hd
              cases hd
              exact hp
          | word v => exact (hnext (.word w) rfl).elim

theorem isEmpty_pieces (cs : List Char) : (pieces cs).isEmpty = (cs.length == 0) := by
  cases cs with
  | nil => rfl
  | cons c cs =>
      obtain ⟨p, ps, hne⟩ := List.exists_cons_of_ne_nil (pieces_ne_nil c cs)
      rw [hne]
      rfl

/-- **Words with and without cutting.** A word at an offset of a title is one of its pieces, the
first one if the offset is 0, and each piece that is a word stands at some offset. -/
theorem forall_wordAt {P : Bool → List Char → Prop} {title : List Char} :
    (∀ i w, WordAt title i w → P (i == 0) w) ↔
      ∀ opens w, WordIn (pieces title) opens w → P opens w := by
  constructor
  · intro h opens w hw
    obtain ⟨as, bs, heq, rfl⟩ := hw.exists_append
    have hcut := wellCut_pieces title
    have htitle := flatMap_pieces title
    rw [heq] at hcut htitle
    rw [List.flatMap_append, List.flatMap_cons] at htitle
    obtain ⟨hbefore, hafter⟩ := hcut.of_append
    rw [← pieces_flatMap hbefore, isEmpty_pieces]
    exact h _ w ⟨_, _, htitle.symm, rfl, hafter.proper _ (List.mem_cons_self ..),
      hcut.breaks_of_append, hafter.breaks_of_cons⟩
  · rintro h i w ⟨before, after, rfl, rfl, hword, hbefore, hafter⟩
    rw [← isEmpty_pieces]
    refine h _ w ?_
    rw [pieces_append (Or.inl hbefore), pieces_append (Or.inr hafter), pieces_word hword]
    exact wordIn_append

/-! ## Changes of words -/

/-- Change the words among pieces; the change may depend on whether a word is the first piece. -/
def mapPieces (f : Bool → List Char → List Char) : List Piece → List Piece
  | [] => []
  | p :: ps => change (f true) p :: ps.map (change (f false))
where
  /-- Change a piece if it is a word. -/
  change (f : List Char → List Char) : Piece → Piece
    | .gap c => .gap c
    | .word w => .word (f w)

/-- Change the words of a title where they stand. -/
def mapWords (f : Bool → List Char → List Char) (title : List Char) : List Char :=
  (mapPieces f (pieces title)).flatMap Piece.chars

variable {f f' : Bool → List Char → List Char}

theorem mapPieces_mapPieces (ps : List Piece) :
    mapPieces f' (mapPieces f ps) = mapPieces (fun opens w => f' opens (f opens w)) ps := by
  have hchange : ∀ opens p, mapPieces.change (f' opens) (mapPieces.change (f opens) p) =
      mapPieces.change (fun w => f' opens (f opens w)) p := fun opens p => by cases p <;> rfl
  cases ps with
  | nil => rfl
  | cons p ps =>
      simp only [mapPieces, List.map_map, hchange]
      congr 1
      exact List.map_congr_left fun q _ => hchange false q

/-- Two changes agree on pieces if they agree on the words among them, and only then. -/
theorem mapPieces_eq_iff {ps : List Piece} :
    mapPieces f ps = mapPieces f' ps ↔ ∀ opens w, WordIn ps opens w → f opens w = f' opens w := by
  have hchange : ∀ opens p, mapPieces.change (f opens) p = mapPieces.change (f' opens) p ↔
      ∀ w, p = .word w → f opens w = f' opens w := fun opens p => by
    cases p with
    | gap c => exact ⟨fun _ => nofun, fun _ => rfl⟩
    | word w =>
        simp only [mapPieces.change, Piece.word.injEq]
        exact ⟨fun h v hv => hv ▸ h, fun h => h w rfl⟩
  cases ps with
  | nil => exact ⟨fun _ => nofun, fun _ => rfl⟩
  | cons p ps =>
      rw [mapPieces, mapPieces, List.cons.injEq, List.map_inj_left, hchange]
      constructor
      · rintro ⟨hfirst, hrest⟩ opens w (⟨rfl, rfl⟩ | ⟨rfl, hw⟩)
        · exact hfirst w rfl
        · exact (hchange false _).mp (hrest _ hw) w rfl
      · intro h
        refine ⟨fun w hw => h true w (Or.inl ⟨rfl, hw⟩), fun q hq => (hchange false q).mpr ?_⟩
        rintro w rfl
        exact h false w (Or.inr ⟨rfl, hq⟩)

/-- A change that leaves words to be words leaves the cut of a title. -/
theorem WellCut.mapPieces {ps : List Piece} (hf : ∀ opens w, IsWord w → IsWord (f opens w))
    (h : WellCut ps) : WellCut (mapPieces f ps) := by
  have hproper : ∀ opens p, p.Proper → (mapPieces.change (f opens) p).Proper := fun opens p hp => by
    cases p with
    | gap c => exact hp
    | word w => exact hf opens w hp
  have hapart : ∀ opens opens' p q, p.Apart q →
      (mapPieces.change (f opens) p).Apart (mapPieces.change (f opens') q) :=
    fun opens opens' p q hpq => by cases p <;> cases q <;> exact hpq
  cases ps with
  | nil => exact h
  | cons p ps =>
      obtain ⟨hp, hps⟩ := List.forall_mem_cons.mp h.proper
      obtain ⟨hnext, hchain⟩ := List.isChain_cons.mp h.apart
      refine WellCut.cons (hproper true p hp) ⟨?_, ?_⟩ ?_
      · intro q hq
        obtain ⟨r, hr, rfl⟩ := List.mem_map.mp hq
        exact hproper false r (hps r hr)
      · rw [List.isChain_map]
        exact hchain.imp fun q r => hapart false false q r
      · intro q hq
        rw [List.head?_map] at hq
        obtain ⟨r, hr, rfl⟩ := Option.map_eq_some_iff.mp hq
        exact hapart true false p r (hnext r hr)

theorem pieces_mapWords (hf : ∀ opens w, IsWord w → IsWord (f opens w)) (title : List Char) :
    pieces (mapWords f title) = mapPieces f (pieces title) :=
  pieces_flatMap ((wellCut_pieces title).mapPieces hf)

theorem mapWords_mapWords (hf : ∀ opens w, IsWord w → IsWord (f opens w)) (title : List Char) :
    mapWords f' (mapWords f title) = mapWords (fun opens w => f' opens (f opens w)) title := by
  rw [mapWords, pieces_mapWords hf, mapPieces_mapPieces]
  rfl

/-- **Changes word by word.** Two changes agree on a title exactly if they agree on each of its
words. -/
theorem mapWords_eq_iff (hf : ∀ opens w, IsWord w → IsWord (f opens w))
    (hf' : ∀ opens w, IsWord w → IsWord (f' opens w)) {title : List Char} :
    mapWords f title = mapWords f' title ↔
      ∀ i w, WordAt title i w → f (i == 0) w = f' (i == 0) w := by
  rw [forall_wordAt (P := fun opens w => f opens w = f' opens w), ← mapPieces_eq_iff]
  constructor
  · intro h
    rw [← pieces_mapWords hf, h, pieces_mapWords hf']
  · exact congrArg (List.flatMap Piece.chars)

end Headline
