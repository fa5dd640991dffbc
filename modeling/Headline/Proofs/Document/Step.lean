import Headline.Proofs.Document.Tree

/-!
# What a token can do

While a tree is built, a token leads from one state to the next or is a fault. The ways in which
it leads on are listed once (`Stepped`), with what is known of the token in each of them, so that
what all steps preserve is proved by going through the list.
-/

namespace Headline

namespace Tree

variable {lines : List String} {t : Token} {f : Frame} {outer : List Frame} {s s' : State}

/-- The ways in which a token leads from one state to the next. -/
inductive Stepped (lines : List String) (t : Token) : State → State → Prop where
  | counts (f : Frame) (outer : List Frame) (n : Nat) (hkind : t.blockKind? = none) :
      Stepped lines t (.within f outer) (.within { f with counted := n } outer)
  | opens (f : Frame) (outer : List Frame) {kind : BlockKind} {b : Block}
      (hkind : t.blockKind? = some kind) (hnew : newBlock lines kind t = .ok b) :
      Stepped lines t (.within f outer) (.within ⟨b, 0⟩ (f :: outer))
  | leaves (f : Frame) (outer : List Frame) (hkind : t.blockKind? = none) :
      Stepped lines t (.within f outer) (State.leave f outer)
  | inlines (f : Frame) (outer : List Frame) (hkind : t.blockKind? = none) :
      Stepped lines t (.within f outer) (.within (f.addInline t) outer)
  | adds (f : Frame) (outer : List Frame) {kind : BlockKind} {b : Block}
      (hkind : t.blockKind? = some kind) (hnew : newBlock lines kind t = .ok b) :
      Stepped lines t (.within f outer) (.within (f.add { b with content := t.content }) outer)
  | skips (f : Frame) (outer : List Frame) (hkind : t.blockKind? = none) :
      Stepped lines t (.within f outer) (.within f outer)
  | lost (d : Block) (m n : Nat) (hkind : t.blockKind? = none) :
      Stepped lines t (.lost d m) (.lost d n)

theorem stepped_within (h : (State.within f outer).step lines t = .ok s') :
    Stepped lines t (.within f outer) s' := by
  cases hopen : t.isOpening with
  | true =>
      cases hkind : t.blockKind? with
      | none =>
          rw [step_counts hopen hkind] at h
          cases h
          exact .counts f outer _ hkind
      | some kind =>
          rw [step_opens hopen hkind] at h
          cases hnew : newBlock lines kind t with
          | error e => rw [hnew] at h; cases h
          | ok b =>
              rw [hnew] at h
              cases h
              exact .opens f outer hkind hnew
  | false =>
      cases hclose : t.isClosing with
      | true =>
          have hkind := Token.blockKind?_closing hclose
          cases hcounted : f.counted with
          | succ n =>
              rw [step_uncounts hclose hcounted] at h
              cases h
              exact .counts f outer n hkind
          | zero =>
              rw [step_leaves hclose hcounted] at h
              cases h
              exact .leaves f outer hkind
      | false =>
          cases hinline : t.isInline with
          | true =>
              rw [step_inlines hinline] at h
              cases h
              exact .inlines f outer (Token.blockKind?_inline hinline)
          | false =>
              cases hkind : t.blockKind? with
              | none =>
                  rw [step_skips hopen hclose hinline hkind] at h
                  cases h
                  exact .skips f outer hkind
              | some kind =>
                  rw [step_adds hopen hclose hinline hkind] at h
                  cases hnew : newBlock lines kind t with
                  | error e => rw [hnew] at h; cases h
                  | ok b =>
                      rw [hnew] at h
                      cases h
                      exact .adds f outer hkind hnew

theorem stepped_lost {d : Block} {n : Nat} (h : (State.lost d n).step lines t = .ok s') :
    Stepped lines t (.lost d n) s' := by
  cases hopen : t.isOpening with
  | true =>
      have hnesting : t.nesting = 1 := by simpa [Token.isOpening] using hopen
      simp only [State.step, if_pos hnesting, ← Token.blockKind?_opening hopen] at h
      cases hkind : t.blockKind? with
      | none =>
          rw [hkind] at h
          cases h
          exact .lost d n _ hkind
      | some kind =>
          simp only [hkind] at h
          cases hnew : newBlock lines kind t with
          | error e => rw [hnew] at h; cases h
          | ok b => rw [hnew] at h; cases h
  | false =>
      have hnesting : t.nesting ≠ 1 := by simpa [Token.isOpening] using hopen
      simp only [State.step, if_neg hnesting] at h
      cases hclose : t.isClosing with
      | true =>
          have hback : t.nesting = -1 := by simpa [Token.isClosing] using hclose
          rw [if_pos hback] at h
          cases n with
          | succ n =>
              cases h
              exact .lost d (n + 1) n (Token.blockKind?_closing hclose)
          | zero => cases h
      | false =>
          have hback : t.nesting ≠ -1 := by simpa [Token.isClosing] using hclose
          rw [if_neg hback, ← Token.blockKind?_other hopen hclose] at h
          by_cases hinline : (t.name == "inline") = true
          · rw [if_pos hinline] at h
            cases h
          · rw [if_neg hinline] at h
            cases hkind : t.blockKind? with
            | none =>
                rw [hkind] at h
                cases h
                exact .lost d n n hkind
            | some kind =>
                rw [hkind] at h
                cases h

/-- Every successful step is one of them. -/
theorem stepped (h : s.step lines t = .ok s') : Stepped lines t s s' := by
  cases s with
  | within f outer => exact stepped_within h
  | lost d n => exact stepped_lost h

/-! ## Runs in two parts -/

theorem State.run_append : ∀ (ts us : List Token) (s : State),
    s.run lines (ts ++ us) = (s.run lines ts).bind (State.run lines us)
  | [], us, s => rfl
  | t :: ts, us, s => by
      rw [List.cons_append, State.run, State.run]
      cases s.step lines t with
      | error e => rfl
      | ok s' => exact run_append ts us s'

theorem State.run_singleton (s : State) (t : Token) : s.run lines [t] = s.step lines t := by
  rw [State.run]
  cases s.step lines t <;> rfl

end Tree

end Headline
