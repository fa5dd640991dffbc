import Headline.Proofs.Text.Caseless
import Headline.Proofs.Text.Casing
import Headline.Title.Case

/-!
# Acronyms, character by character

Whether a text is fully upper case is asked of the text as a whole: it is its own upper-case form
and not its own lower-case form. Nothing is lost by asking its characters one by one. That takes
more than a look at the definitions, since upper case may make several characters of one and lower
case looks at what stands around a sigma; but a text is in either case exactly if its characters
are (`upperChars_eq_self`, `lowerChars_eq_self`).

So what is added to an acronym at either end leaves it an acronym if upper case does not change
it, and characters without a case make no difference at all.
-/

namespace Headline

open Text

variable {cs ds : List Char}

theorem isAcronymChars_iff :
    isAcronymChars cs = true ↔
      (∀ c ∈ cs, upperChar c = [c]) ∧ ∃ c ∈ cs, lowerChar c ≠ [c] := by
  rw [isAcronymChars, Bool.and_eq_true, beq_iff_eq, bne_iff_ne, upperChars_eq_self, Ne,
    lowerChars_eq_self]
  simp only [not_forall, exists_prop]

theorem isAcronymChars_append :
    isAcronymChars (cs ++ ds) = true ↔
      (∀ c ∈ cs, upperChar c = [c]) ∧ (∀ c ∈ ds, upperChar c = [c])
        ∧ ((∃ c ∈ cs, lowerChar c ≠ [c]) ∨ ∃ c ∈ ds, lowerChar c ≠ [c]) := by
  simp only [isAcronymChars_iff, List.mem_append, or_imp, forall_and, or_and_right, exists_or,
    and_assoc]

theorem isAcronymChars_append_comm (cs ds : List Char) :
    isAcronymChars (cs ++ ds) = isAcronymChars (ds ++ cs) := by
  rw [Bool.eq_iff_iff, isAcronymChars_append, isAcronymChars_append, or_comm, and_left_comm]

/-- What upper case leaves alone does not spoil an acronym. -/
theorem isAcronymChars_append_of_upper (h : isAcronymChars cs = true)
    (hds : ∀ c ∈ ds, upperChar c = [c]) : isAcronymChars (cs ++ ds) = true := by
  obtain ⟨hcs, hlower⟩ := isAcronymChars_iff.mp h
  exact isAcronymChars_append.mpr ⟨hcs, hds, Or.inl hlower⟩

/-- Characters without a case neither spoil nor make an acronym. -/
theorem isAcronymChars_append_of_caseless (hds : ∀ c ∈ ds, Caseless c) :
    isAcronymChars (cs ++ ds) = isAcronymChars cs := by
  have hupper : ∀ c ∈ ds, upperChar c = [c] := fun c hc => (hds c hc).1
  have hlower : ¬∃ c ∈ ds, lowerChar c ≠ [c] := by
    rintro ⟨c, hc, hne⟩
    exact hne (hds c hc).2
  rw [Bool.eq_iff_iff, isAcronymChars_append, isAcronymChars_iff, or_iff_left hlower]
  exact and_congr_right fun _ => and_iff_right hupper

/-- **Acronyms by their characters.** A text is fully upper case exactly if upper case leaves each
of its characters alone and lower case changes one of them. What upper case leaves alone may be
added at either end, and what lower case leaves alone too, such as digits and punctuation, makes
no difference there. The first character of an acronym is its own capital. -/
theorem isFullyUpperCase_iff_chars (s : String) :
    (isFullyUpperCase s = true ↔
      (∀ c ∈ s.toList, upper (.singleton c) = .singleton c)
        ∧ ∃ c ∈ s.toList, lower (.singleton c) ≠ .singleton c)
    ∧ (∀ t : String, isFullyUpperCase s = true →
        (∀ c ∈ t.toList, upper (.singleton c) = .singleton c) →
        isFullyUpperCase (s ++ t) = true ∧ isFullyUpperCase (t ++ s) = true)
    ∧ (∀ t : String, (∀ c ∈ t.toList, upper (.singleton c) = .singleton c
          ∧ lower (.singleton c) = .singleton c) →
        isFullyUpperCase (s ++ t) = isFullyUpperCase s
          ∧ isFullyUpperCase (t ++ s) = isFullyUpperCase s)
    ∧ (∀ c, isDigit c = true ∨ isPunctuation c = true ∧ circledLetters.has c = false →
        upper (.singleton c) = .singleton c ∧ lower (.singleton c) = .singleton c)
    ∧ (isFullyUpperCase s = true →
        ∃ c cs, s.toList = c :: cs ∧ upper (.singleton c) = .singleton c) := by
  simp only [isFullyUpperCase, String.toList_append, upper_singleton, Ne, lower_singleton]
  refine ⟨isAcronymChars_iff, fun t h ht => ?_, fun t ht => ?_, fun c hc => ?_, fun h => ?_⟩
  · rw [isAcronymChars_append_comm t.toList, and_self]
    exact isAcronymChars_append_of_upper h ht
  · rw [isAcronymChars_append_comm t.toList, and_self]
    exact isAcronymChars_append_of_caseless ht
  · rcases hc with hdigit | ⟨hpunctuation, hletter⟩
    · exact caseless_of_isDigit hdigit
    · exact caseless_of_isPunctuation hpunctuation hletter
  · obtain ⟨hupper, c, hc, -⟩ := isAcronymChars_iff.mp h
    obtain ⟨d, cs, heq⟩ := List.exists_cons_of_ne_nil (List.ne_nil_of_mem hc)
    refine ⟨d, cs, heq, hupper d ?_⟩
    rw [heq]
    exact List.mem_cons_self ..

/-- The sigma at the end is lowered to another character there than it is by itself. -/
theorem isFullyUpperCase_iff_chars_sigma :
    isFullyUpperCase "ΑΒΣ" = true ∧ isFullyUpperCase ("ΑΒΣ" ++ "Œ2") = true
      ∧ isFullyUpperCase ("-2" ++ "ΑΒΣ") = isFullyUpperCase "ΑΒΣ" := by
  have hacronym : isFullyUpperCase "ΑΒΣ" = true := by decide +kernel
  have hupper : ∀ c ∈ "Œ2".toList, upper (.singleton c) = .singleton c := by
    have hall : ("Œ2".toList.all fun c => upperChar c == [c]) = true := by decide +kernel
    simpa only [List.all_eq_true, beq_iff_eq, upper_singleton] using hall
  have hcaseless : ∀ c ∈ "-2".toList,
      upper (.singleton c) = .singleton c ∧ lower (.singleton c) = .singleton c := by
    have hall : ("-2".toList.all fun c => upperChar c == [c] && lowerChar c == [c]) = true := by
      decide +kernel
    simpa only [List.all_eq_true, Bool.and_eq_true, beq_iff_eq, upper_singleton, lower_singleton]
      using hall
  obtain ⟨-, hadd, hkeep, -⟩ := isFullyUpperCase_iff_chars "ΑΒΣ"
  exact ⟨hacronym, (hadd "Œ2" hacronym hupper).1, (hkeep "-2" hcaseless).2⟩

end Headline
