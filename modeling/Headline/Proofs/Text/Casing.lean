import Headline.Proofs.Text.CaseTable

/-!
# Texts in lower and in upper case

Lower case works character by character except at capital sigmas, and even there it yields a
character that lower case leaves alone. So a text is in lower case exactly if every character of
it is (`lowerAfter_eq_self`), whatever stands around it, and lowering twice is lowering once.

Upper case looks at nothing around a character, but a character may become several. Since none
becomes nothing, a text that is its own upper-case form gives each character the room of one, and
so it is in upper case exactly if every character of it is (`upperChars_eq_self`).
-/

namespace Headline.Text

theorem lowerChar_finalSigma : lowerChar 'ς' = ['ς'] := by decide +kernel

theorem lowerChar_sigma : lowerChar 'Σ' = ['σ'] := by decide +kernel

/-- A character in lower case is not the capital sigma. -/
theorem ne_sigma_of_lowerChar {c : Char} (hc : lowerChar c = [c]) : c ≠ 'Σ' := by
  rintro rfl
  rw [lowerChar_sigma] at hc
  cases hc

/-- What comes first is what the first character is lowered to. -/
theorem lowerAfter_cons (before : List Char) (c : Char) (cs : List Char) :
    ∃ ds, lowerAfter before (c :: cs) = ds ++ lowerAfter (c :: before) cs ∧ ds ≠ []
      ∧ (∀ d ∈ ds, d ∈ lowerChar c ∨ d = 'ς') ∧ (c ≠ 'Σ' → ds = lowerChar c) := by
  rw [lowerAfter]
  split
  next hc =>
    refine ⟨_, rfl, List.cons_ne_nil _ _, fun d hd => ?_, fun hne => absurd hc hne⟩
    rw [List.mem_singleton] at hd
    subst hc
    rw [lowerChar_sigma, hd]
    split
    next => exact Or.inr rfl
    next => exact Or.inl (List.mem_singleton_self _)
  next hc => exact ⟨_, rfl, lowerChar_ne_nil c, fun d hd => Or.inl hd, fun _ => rfl⟩

/-- Every character of a text in lower case comes from one of the text, or is a final sigma. -/
theorem mem_lowerAfter {d : Char} : ∀ {before cs : List Char}, d ∈ lowerAfter before cs →
    (∃ c ∈ cs, d ∈ lowerChar c) ∨ d = 'ς'
  | before, c :: cs, hd => by
      obtain ⟨ds, heq, -, hds, -⟩ := lowerAfter_cons before c cs
      rw [heq, List.mem_append] at hd
      rcases hd with hd | hd
      · exact (hds d hd).imp (fun h => ⟨c, List.mem_cons_self .., h⟩) id
      · refine (mem_lowerAfter hd).imp ?_ id
        rintro ⟨e, he, hde⟩
        exact ⟨e, List.mem_cons_of_mem _ he, hde⟩

/-- Lower case does not shorten a text. -/
theorem length_le_lowerAfter : ∀ before cs : List Char,
    cs.length ≤ (lowerAfter before cs).length
  | _, [] => Nat.le_refl _
  | before, c :: cs => by
      obtain ⟨ds, heq, hne, -⟩ := lowerAfter_cons before c cs
      have hpos := List.length_pos_iff.mpr hne
      have hrest := length_le_lowerAfter (c :: before) cs
      rw [heq, List.length_append, List.length_cons]
      omega

/-- A text is in lower case exactly if its characters are. -/
theorem lowerAfter_eq_self : ∀ {before cs : List Char},
    lowerAfter before cs = cs ↔ ∀ c ∈ cs, lowerChar c = [c]
  | _, [] => by simp [lowerAfter]
  | before, c :: cs => by
      obtain ⟨ds, heq, hne, hds, hchar⟩ := lowerAfter_cons before c cs
      have hrest : lowerAfter (c :: before) cs = cs ↔ ∀ d ∈ cs, lowerChar d = [d] :=
        lowerAfter_eq_self
      rw [heq, List.forall_mem_cons, ← hrest]
      constructor
      · intro h
        -- nothing gets shorter, so the first character is lowered to one character, itself
        have hlen := congrArg List.length h
        have hle := length_le_lowerAfter (c :: before) cs
        have hpos := List.length_pos_iff.mpr hne
        rw [List.length_append, List.length_cons] at hlen
        have happend : ds ++ lowerAfter (c :: before) cs = [c] ++ cs := h
        obtain ⟨hhead, htail⟩ := List.append_inj happend (by rw [List.length_singleton]; omega)
        refine ⟨?_, htail⟩
        by_cases hc : c = 'Σ'
        · rcases hds c (by rw [hhead]; exact List.mem_singleton_self c) with hmem | hfinal
          · exact lowerChar_of_mem hmem
          · rw [hfinal]
            exact lowerChar_finalSigma
        · rw [← hchar hc, hhead]
      · rintro ⟨hc, htail⟩
        rw [htail, hchar (ne_sigma_of_lowerChar hc), hc]
        rfl

theorem lowerChars_eq_self {cs : List Char} : lowerChars cs = cs ↔ ∀ c ∈ cs, lowerChar c = [c] :=
  lowerAfter_eq_self

/-- **Lowering twice is lowering once.** -/
theorem lowerChars_lowerChars (cs : List Char) : lowerChars (lowerChars cs) = lowerChars cs := by
  rw [lowerChars_eq_self]
  intro d hd
  rcases mem_lowerAfter hd with ⟨c, -, hmem⟩ | hfinal
  · exact lowerChar_of_mem hmem
  · rw [hfinal]
    exact lowerChar_finalSigma

/-- Lower case of a character by itself is that of a text of one character. -/
theorem lower_singleton {c : Char} :
    lower (String.singleton c) = String.singleton c ↔ lowerChar c = [c] := by
  rw [← String.toList_inj, lower, String.toList_ofList, String.toList_singleton,
    lowerChars_eq_self, List.forall_mem_singleton]

theorem lowerChars_ne_nil {cs : List Char} (h : cs ≠ []) : lowerChars cs ≠ [] := by
  have hle := length_le_lowerAfter [] cs
  have hpos := List.length_pos_iff.mpr h
  exact List.length_pos_iff.mp (Nat.lt_of_lt_of_le hpos hle)

/-! ## Upper case -/

theorem length_le_upperChars : ∀ cs : List Char, cs.length ≤ (upperChars cs).length
  | [] => Nat.le_refl _
  | c :: cs => by
      have hpos := List.length_pos_iff.mpr (upperChar_ne_nil c)
      have hrest := length_le_upperChars cs
      rw [upperChars, List.flatMap_cons, List.length_append, List.length_cons]
      rw [upperChars] at hrest
      omega

/-- A text is in upper case exactly if its characters are. -/
theorem upperChars_eq_self : ∀ {cs : List Char},
    upperChars cs = cs ↔ ∀ c ∈ cs, upperChar c = [c]
  | [] => by simp [upperChars]
  | c :: cs => by
      have hrest : upperChars cs = cs ↔ ∀ d ∈ cs, upperChar d = [d] := upperChars_eq_self
      have hcons : upperChars (c :: cs) = upperChar c ++ upperChars cs := List.flatMap_cons
      rw [hcons, List.forall_mem_cons, ← hrest]
      constructor
      · intro h
        -- nothing gets shorter, so there is room for one character in front
        have hlen := congrArg List.length h
        have hle := length_le_upperChars cs
        have hpos := List.length_pos_iff.mpr (upperChar_ne_nil c)
        rw [List.length_append, List.length_cons] at hlen
        have happend : upperChar c ++ upperChars cs = [c] ++ cs := h
        exact List.append_inj happend (by rw [List.length_singleton]; omega)
      · rintro ⟨hc, htail⟩
        rw [hc, htail]
        rfl

theorem upper_singleton {c : Char} :
    upper (String.singleton c) = String.singleton c ↔ upperChar c = [c] := by
  rw [← String.toList_inj, upper, String.toList_ofList, String.toList_singleton,
    upperChars_eq_self, List.forall_mem_singleton]

end Headline.Text
