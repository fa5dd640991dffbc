import Headline.Proofs.RuleOptions
import Mathlib.Data.List.Forall2

/-!
# What the values of single options stand for

Each option has values that stand for something, and these can be told without the check:
`CallerWords`, `CallerFlag` and `CallerPatterns` say which values these are and what they stand
for. For the words, everything that counts as nothing stands for no words: not only a value that is
absent, but also `false`, zero and the empty text, which are no lists.

Words and patterns are looked at in order up to the first that is refused (`UpTo`). Most faults are
mistakes in the configuration. Those that are not (`BreaksDown`) come from a value that cannot be
shown in its own fault, or from a pattern that is not refused for a defect.
-/

namespace Headline

/-! ## Lists that are read up to the first fault -/

section Reading

variable {α β ε : Type} {f : α → Except ε β} {xs : List α}

/-- A member of a list, with members of a certain kind before it. -/
def UpTo (P : α → Prop) (xs : List α) (x : α) : Prop :=
  ∃ before after, xs = before ++ x :: after ∧ ∀ w ∈ before, P w

theorem UpTo.mem {P : α → Prop} {x : α} (h : UpTo P xs x) : x ∈ xs := by
  obtain ⟨before, after, rfl, -⟩ := h
  exact List.mem_append_right _ (List.mem_cons_self ..)

theorem not_upTo_nil {P : α → Prop} {x : α} : ¬UpTo P [] x := fun h => nomatch h.mem

theorem upTo_cons {P : α → Prop} {x y : α} :
    UpTo P (y :: xs) x ↔ x = y ∨ P y ∧ UpTo P xs x := by
  constructor
  · rintro ⟨before, after, hsplit, hbefore⟩
    cases before with
    | nil => exact Or.inl (List.cons.inj hsplit).1.symm
    | cons w before =>
        obtain ⟨rfl, rfl⟩ := List.cons.inj hsplit
        obtain ⟨hw, hbefore⟩ := List.forall_mem_cons.mp hbefore
        exact Or.inr ⟨hw, before, after, rfl, hbefore⟩
  · rintro (rfl | ⟨hy, before, after, rfl, hbefore⟩)
    · exact ⟨[], xs, rfl, List.forall_mem_nil _⟩
    · exact ⟨y :: before, after, rfl, List.forall_mem_cons.mpr ⟨hy, hbefore⟩⟩

theorem mapM_cons_eq_ok_iff {x : α} {ys : List β} :
    (x :: xs).mapM f = .ok ys ↔
      ∃ y zs, f x = .ok y ∧ xs.mapM f = .ok zs ∧ ys = y :: zs := by
  rw [List.mapM_cons]
  cases f x with
  | error e => simp [bind, Except.bind]
  | ok y => cases xs.mapM f <;> simp [bind, Except.bind, pure, Except.pure, eq_comm]

theorem mapM_cons_eq_error_iff {x : α} {e : ε} :
    (x :: xs).mapM f = .error e ↔
      f x = .error e ∨ (∃ y, f x = .ok y) ∧ xs.mapM f = .error e := by
  rw [List.mapM_cons]
  cases f x with
  | error e => simp [bind, Except.bind]
  | ok y => cases xs.mapM f <;> simp [bind, Except.bind, pure, Except.pure]

theorem mapM_eq_ok_iff {ys : List β} :
    xs.mapM f = .ok ys ↔ List.Forall₂ (fun x y => f x = .ok y) xs ys := by
  induction xs generalizing ys with
  | nil => simp [pure, Except.pure, eq_comm]
  | cons x xs ih =>
      rw [mapM_cons_eq_ok_iff, List.forall₂_cons_left_iff]
      simp only [ih]

/-- The fault of a list is that of its first member with a fault. -/
theorem mapM_eq_error_iff {e : ε} :
    xs.mapM f = .error e ↔ ∃ x, UpTo (fun w => ∃ y, f w = .ok y) xs x ∧ f x = .error e := by
  induction xs with
  | nil => simp [not_upTo_nil, pure, Except.pure]
  | cons x xs ih =>
      rw [mapM_cons_eq_error_iff, ih]
      simp only [upTo_cons]
      constructor
      · rintro (hx | ⟨hx, w, hupto, hw⟩)
        · exact ⟨x, Or.inl rfl, hx⟩
        · exact ⟨w, Or.inr ⟨hx, hupto⟩, hw⟩
      · rintro ⟨w, rfl | ⟨hx, hupto⟩, hw⟩
        · exact Or.inl hw
        · exact Or.inr ⟨hx, w, hupto, hw⟩

end Reading

/-! ## Faults that are no mistake in the configuration -/

section Breaking

variable {α β : Type}

/-- The result is a fault, and not one in the configuration. -/
def BreaksDown (r : Except OptionFault α) : Prop := ∃ f, r = .error f ∧ f.isConfiguration = false

@[simp] theorem not_breaksDown_ok (a : α) : ¬BreaksDown (.ok a) := fun h => by
  obtain ⟨f, hf, -⟩ := h
  cases hf

@[simp] theorem breaksDown_error_iff {f : OptionFault} :
    BreaksDown (.error f : Except OptionFault α) ↔ f.isConfiguration = false := by
  simp [BreaksDown]

theorem breaksDown_bind_iff {r : Except OptionFault α} {g : α → Except OptionFault β} :
    BreaksDown (r >>= g) ↔ BreaksDown r ∨ ∃ a, r = .ok a ∧ BreaksDown (g a) := by
  cases r with
  | error f => simp [BreaksDown, bind, Except.bind]
  | ok a => simp [bind, Except.bind]

theorem breaksDown_mapM_iff {f : α → Except OptionFault β} {xs : List α} :
    BreaksDown (xs.mapM f) ↔ ∃ x, UpTo (fun w => ∃ y, f w = .ok y) xs x ∧ BreaksDown (f x) := by
  rw [BreaksDown]
  simp only [mapM_eq_error_iff]
  constructor
  · rintro ⟨e, ⟨x, hupto, hx⟩, he⟩
    exact ⟨x, hupto, e, hx, he⟩
  · rintro ⟨x, hupto, e, hx, he⟩
    exact ⟨e, ⟨x, hupto, hx⟩, he⟩

/-- A value that is no text is shown in its fault, if it can be. -/
theorem notText_isConfiguration_iff {fault : String → OptionFault}
    (hfault : ∀ s, (fault s).isConfiguration = true) (v : Value) :
    (OptionFault.notText fault v).isConfiguration = false ↔ v.Unshown := by
  rw [OptionFault.notText]
  cases hv : v.literal with
  | ok shown => simp [hfault, Value.exists_literal_iff.mp ⟨shown, hv⟩]
  | error limit => simp [OptionFault.isConfiguration, Value.literal_error_iff.mp hv]

end Breaking

namespace RuleOptions

/-! ## What the values of options stand for -/

/-- What a value stands for as the words of a caller: nothing, and all that counts as nothing,
for no words; a list, tuple or set of texts for these. -/
inductive CallerWords : Value → List String → Prop
  | nothing {v : Value} (h : v.isEmptyLike = true) : CallerWords v []
  | list (ws : List String) : CallerWords (.list (ws.map .str)) ws
  | tuple (ws : List String) : CallerWords (.tuple (ws.map .str)) ws
  | set (ws : List String) : CallerWords (.set (ws.map .str)) ws

/-- What a value stands for as the permission to open a title in lower case. -/
inductive CallerFlag : Value → Bool → Prop
  | nothing : CallerFlag .null false
  | flag (b : Bool) : CallerFlag (.bool b) b

/-- What a value stands for as the sources of patterns. -/
inductive CallerPatterns : Value → List String → Prop
  | nothing : CallerPatterns .null []
  | blank : CallerPatterns (.str "") []
  | single {p : String} (h : p ≠ "") : CallerPatterns (.str p) [p]
  | list (ps : List String) : CallerPatterns (.list (ps.map .str)) ps
  | tuple (ps : List String) : CallerPatterns (.tuple (ps.map .str)) ps

/-- The values among which the words of a caller are looked for. -/
def wordValues : Value → List Value
  | .list vs => vs
  | .tuple vs => vs
  | .set vs => vs
  | _ => []

/-- The values among which the texts of patterns are looked for. -/
def patternValues : Value → List Value
  | .str s => [.str s]
  | .list vs => vs
  | .tuple vs => vs
  | _ => []

/-! ## Words -/

def IsText (v : Value) : Prop := ∃ s, v = .str s

theorem IsText.not_unshown {v : Value} (h : IsText v) : ¬v.Unshown := by
  obtain ⟨s, rfl⟩ := h
  exact Value.not_unshown_str s

theorem textsOf_eq_ok_iff {vs : List Value} {ts : List String} :
    textsOf vs = .ok ts ↔ vs = ts.map .str := by
  induction vs generalizing ts with
  | nil => cases ts <;> simp [textsOf]
  | cons v vs ih =>
      cases v with
      | str s =>
          rw [textsOf]
          cases hvs : textsOf vs with
          | error e => cases ts <;> simp [Except.map, ← ih, hvs]
          | ok us => cases ts <;> simp [Except.map, ← ih, hvs]
      | _ => cases ts <;> simp [textsOf]

/-- Words are read up to the first that is no text, and this one is shown. -/
theorem breaksDown_textsOf_iff {vs : List Value} :
    BreaksDown (textsOf vs) ↔ ∃ w, UpTo IsText vs w ∧ w.Unshown := by
  have hshown := @notText_isConfiguration_iff .wordNotText fun _ => rfl
  induction vs with
  | nil => simp [textsOf, not_upTo_nil]
  | cons v vs ih =>
      simp only [upTo_cons, or_and_right, exists_or, exists_eq_left]
      cases v with
      | str s =>
          have hmap : BreaksDown (textsOf (.str s :: vs)) ↔ BreaksDown (textsOf vs) := by
            rw [textsOf]
            cases textsOf vs <;> simp [Except.map]
          have htext : IsText (.str s) := ⟨s, rfl⟩
          simp [hmap, ih, htext, Value.not_unshown_str]
      | _ => simp [textsOf, hshown, IsText]

theorem checkWords_getD (v? : Option Value) :
    checkWords v? = checkWords (some (v?.getD .null)) := by
  cases v? <;> rfl

theorem checkWords_eq_ok_iff {v? : Option Value} {ws : List String} :
    checkWords v? = .ok ws ↔ CallerWords (v?.getD .null) ws := by
  rw [checkWords_getD]
  generalize v?.getD .null = v
  constructor
  · intro h
    simp only [checkWords] at h
    split at h
    next hempty =>
      cases h
      exact .nothing hempty
    next =>
      split at h
      next =>
        rw [textsOf_eq_ok_iff.mp h]
        exact .list ws
      next =>
        rw [textsOf_eq_ok_iff.mp h]
        exact .tuple ws
      next =>
        rw [textsOf_eq_ok_iff.mp h]
        exact .set ws
      next => cases h
  · intro h
    cases h with
    | nothing hempty => simp only [checkWords, hempty, if_true]
    | list => cases ws <;> simp [checkWords, Value.isEmptyLike, textsOf_eq_ok_iff]
    | tuple => cases ws <;> simp [checkWords, Value.isEmptyLike, textsOf_eq_ok_iff]
    | set => cases ws <;> simp [checkWords, Value.isEmptyLike, textsOf_eq_ok_iff]

theorem breaksDown_checkWords_iff {v? : Option Value} :
    BreaksDown (checkWords v?) ↔ ∃ w, UpTo IsText (wordValues (v?.getD .null)) w ∧ w.Unshown := by
  rw [checkWords_getD]
  generalize v?.getD .null = v
  cases hempty : v.isEmptyLike with
  | true =>
      have hnone : wordValues v = [] := by
        cases v <;> simp_all [Value.isEmptyLike, wordValues]
      simp [checkWords, hempty, hnone, not_upTo_nil]
  | false =>
      cases v with
      | list vs => simp [checkWords, hempty, wordValues, breaksDown_textsOf_iff]
      | tuple vs => simp [checkWords, hempty, wordValues, breaksDown_textsOf_iff]
      | set vs => simp [checkWords, hempty, wordValues, breaksDown_textsOf_iff]
      | _ => simp [checkWords, hempty, wordValues, not_upTo_nil, OptionFault.isConfiguration]

/-! ## The permission -/

theorem checkFlag_getD (v? : Option Value) : checkFlag v? = checkFlag (some (v?.getD .null)) := by
  cases v? <;> rfl

theorem checkFlag_eq_ok_iff {v? : Option Value} {b : Bool} :
    checkFlag v? = .ok b ↔ CallerFlag (v?.getD .null) b := by
  rw [checkFlag_getD]
  generalize v?.getD .null = v
  constructor
  · intro h
    simp only [checkFlag] at h
    split at h
    next hnone => cases hnone
    next hnull =>
      cases hnull
      cases h
      exact .nothing
    next hflag =>
      cases hflag
      cases h
      exact .flag b
    next => cases h
  · intro h
    cases h <;> rfl

theorem not_breaksDown_checkFlag (v? : Option Value) : ¬BreaksDown (checkFlag v?) := by
  rintro ⟨f, hf, hbreaks⟩
  unfold checkFlag at hf
  split at hf <;> cases hf
  cases hbreaks

/-! ## Patterns -/

section Patterns

variable {characters : Pattern.CharacterNames} {v : Value}

/-- A text that can be read as a pattern. -/
def Readable (characters : Pattern.CharacterNames) (v : Value) : Prop :=
  ∃ p q, v = .str p ∧ Pattern.compile characters p = .ok q

/-- The first of the patterns that cannot be read is this text, and this is what is wrong
with it. -/
def FirstRefused (characters : Pattern.CharacterNames) (v : Value) (p : String)
    (fault : Pattern.Fault) : Prop :=
  UpTo (Readable characters) (patternValues v) (.str p)
    ∧ Pattern.compile characters p = .error fault

theorem compile_blank : Pattern.compile characters "" = .ok ⟨"", .empty⟩ := rfl

theorem checkPattern_eq_ok_iff {q : Pattern} :
    checkPattern characters v = .ok q ↔ ∃ p, v = .str p ∧ Pattern.compile characters p = .ok q := by
  cases v with
  | str s =>
      rw [checkPattern, mapError_eq_ok_iff]
      simp
  | _ => simp [checkPattern]

theorem readable_iff : Readable characters v ↔ ∃ q, checkPattern characters v = .ok q := by
  simp only [checkPattern_eq_ok_iff, Readable]
  exact exists_comm

theorem breaksDown_checkPattern_iff :
    BreaksDown (checkPattern characters v) ↔ v.Unshown ∨ ∃ p fault, v = .str p
      ∧ Pattern.compile characters p = .error fault ∧ fault.isDefect = false := by
  have hshown := @notText_isConfiguration_iff .patternNotText fun _ => rfl
  cases v with
  | str s =>
      rw [checkPattern, or_iff_right (Value.not_unshown_str s)]
      cases hs : Pattern.compile characters s with
      | ok q => simp [hs]
      | error fault => simp [hs, OptionFault.isConfiguration]
  | _ => simp [checkPattern, hshown]

theorem mapM_checkPattern_eq_ok_iff {vs : List Value} {qs : List Pattern} :
    vs.mapM (checkPattern characters) = .ok qs ↔ ∃ ps, vs = ps.map .str
      ∧ List.Forall₂ (fun p q => Pattern.compile characters p = .ok q) ps qs := by
  rw [mapM_eq_ok_iff]
  constructor
  · intro h
    induction h with
    | nil => exact ⟨[], rfl, .nil⟩
    | cons hv _ ih =>
        obtain ⟨p, rfl, hp⟩ := checkPattern_eq_ok_iff.mp hv
        obtain ⟨ps, rfl, hps⟩ := ih
        exact ⟨p :: ps, rfl, .cons hp hps⟩
  · rintro ⟨ps, rfl, hps⟩
    rw [List.forall₂_map_left_iff]
    exact hps.imp fun p q hp => checkPattern_eq_ok_iff.mpr ⟨p, rfl, hp⟩

/-- A text that is not empty is a list of one pattern. -/
theorem checkPatterns_single {p : String} (h : p ≠ "") :
    checkPatterns characters (.str p) = [Value.str p].mapM (checkPattern characters) := by
  have hp : p.isEmpty = false := by simpa using h
  rw [checkPatterns, hp]
  rfl

theorem checkPatterns_eq_ok_iff {qs : List Pattern} :
    checkPatterns characters v = .ok qs ↔ ∃ ps, CallerPatterns v ps
      ∧ List.Forall₂ (fun p q => Pattern.compile characters p = .ok q) ps qs := by
  constructor
  · intro h
    cases v with
    | null =>
        cases h
        exact ⟨[], .nothing, .nil⟩
    | str p =>
        by_cases hp : p = ""
        · subst hp
          cases h
          exact ⟨[], .blank, .nil⟩
        · rw [checkPatterns_single hp, mapM_checkPattern_eq_ok_iff] at h
          obtain ⟨ps, hps, hread⟩ := h
          obtain ⟨q, rfl, hq⟩ := List.map_eq_singleton_iff.mp hps.symm
          cases hq
          exact ⟨[p], .single hp, hread⟩
    | list vs =>
        obtain ⟨ps, rfl, hread⟩ := mapM_checkPattern_eq_ok_iff.mp h
        exact ⟨ps, .list ps, hread⟩
    | tuple vs =>
        obtain ⟨ps, rfl, hread⟩ := mapM_checkPattern_eq_ok_iff.mp h
        exact ⟨ps, .tuple ps, hread⟩
    | _ => cases h
  · rintro ⟨ps, hv, hread⟩
    cases hv with
    | nothing =>
        cases hread
        rfl
    | blank =>
        cases hread
        rfl
    | single hp =>
        rw [checkPatterns_single hp]
        exact mapM_checkPattern_eq_ok_iff.mpr ⟨_, rfl, hread⟩
    | list => exact mapM_checkPattern_eq_ok_iff.mpr ⟨_, rfl, hread⟩
    | tuple => exact mapM_checkPattern_eq_ok_iff.mpr ⟨_, rfl, hread⟩

/-- The check of patterns is that of the members, but for the empty text and for values that are
not gone through. -/
theorem checkPatterns_eq_mapM {w : Value} (hw : w ∈ patternValues v) (hblank : v ≠ .str "") :
    checkPatterns characters v = (patternValues v).mapM (checkPattern characters) := by
  cases v with
  | str p => exact checkPatterns_single fun hp => hblank (congrArg Value.str hp)
  | list vs => rfl
  | tuple vs => rfl
  | _ => cases hw

theorem checkPatterns_of_member {w : Value} {f : OptionFault}
    (hupto : UpTo (Readable characters) (patternValues v) w)
    (hw : checkPattern characters w = .error f) : checkPatterns characters v = .error f := by
  have hblank : v ≠ .str "" := by
    rintro rfl
    obtain rfl := List.mem_singleton.mp hupto.mem
    cases hw
  rw [checkPatterns_eq_mapM hupto.mem hblank, mapM_eq_error_iff]
  simp only [← readable_iff]
  exact ⟨w, hupto, hw⟩

theorem FirstRefused.checkPatterns_eq {p : String} {fault : Pattern.Fault}
    (h : FirstRefused characters v p fault) :
    checkPatterns characters v = .error (.badPattern p fault) := by
  refine checkPatterns_of_member h.1 ?_
  rw [checkPattern, h.2]
  rfl

theorem breaksDown_checkPatterns_iff :
    BreaksDown (checkPatterns characters v) ↔
      (∃ w, UpTo (Readable characters) (patternValues v) w ∧ w.Unshown)
        ∨ ∃ p fault, FirstRefused characters v p fault ∧ fault.isDefect = false := by
  constructor
  · rintro ⟨f, hf, hbreaks⟩
    have hmembers : BreaksDown ((patternValues v).mapM (checkPattern characters)) := by
      refine ⟨f, ?_, hbreaks⟩
      cases v with
      | str p =>
          rwa [checkPatterns_single] at hf
          rintro rfl
          cases hf
      | list | tuple => exact hf
      | null => cases hf
      | _ =>
          cases hf
          cases hbreaks
    rw [breaksDown_mapM_iff] at hmembers
    simp only [← readable_iff] at hmembers
    obtain ⟨w, hupto, hw⟩ := hmembers
    rcases breaksDown_checkPattern_iff.mp hw with hw | ⟨p, fault, rfl, hp, hdefect⟩
    · exact Or.inl ⟨w, hupto, hw⟩
    · exact Or.inr ⟨p, fault, ⟨hupto, hp⟩, hdefect⟩
  · rintro (⟨w, hupto, hw⟩ | ⟨p, fault, hfirst, hdefect⟩)
    · obtain ⟨f, hf, hbreaks⟩ := breaksDown_checkPattern_iff.mpr (Or.inl hw)
      exact ⟨f, checkPatterns_of_member hupto hf, hbreaks⟩
    · exact ⟨_, hfirst.checkPatterns_eq, hdefect⟩

theorem CallerPatterns.mem_patternValues {ps : List String} (h : CallerPatterns v ps)
    {p : String} (hp : p ∈ ps) : .str p ∈ patternValues v := by
  cases h with
  | nothing => cases hp
  | blank => cases hp
  | single =>
      cases List.mem_singleton.mp hp
      exact List.mem_singleton.mpr rfl
  | list => exact List.mem_map_of_mem hp
  | tuple => exact List.mem_map_of_mem hp

theorem CallerPatterns.mem_or_blank {ps : List String} (h : CallerPatterns v ps)
    {p : String} (hp : .str p ∈ patternValues v) : p ∈ ps ∨ p = "" := by
  cases h with
  | nothing => cases hp
  | blank =>
      cases List.mem_singleton.mp hp
      exact Or.inr rfl
  | single =>
      cases List.mem_singleton.mp hp
      exact Or.inl (List.mem_singleton.mpr rfl)
  | list => exact Or.inl (by simpa [patternValues] using hp)
  | tuple => exact Or.inl (by simpa [patternValues] using hp)

theorem exists_forall₂_compile_iff {ps : List String} :
    (∃ qs, List.Forall₂ (fun p q => Pattern.compile characters p = .ok q) ps qs) ↔
      ∀ p ∈ ps, ∃ q, Pattern.compile characters p = .ok q := by
  induction ps with
  | nil => simp
  | cons p ps ih => simp [List.forall₂_cons_left_iff, ← ih, exists_and_left, exists_and_right]

end Patterns

end RuleOptions

end Headline
