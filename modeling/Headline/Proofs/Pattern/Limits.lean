import Headline.Pattern.Basic
import Mathlib.Algebra.Group.Nat.Defs
import Mathlib.Data.List.Infix

/-!
# Patterns that exceed a limit

Most that is wrong with a pattern is a defect of the pattern. A few patterns are well formed and
fail all the same, since they exceed a limit of the reader or set two flags that contradict each
other. Such a pattern can be told from its text (`Exceeds`): it has a brace and ten digits in a
row, or an escape with a capital `U`, or a group with a question mark and the letters of both
flags. A pattern without any of these is read or has a defect (`compile_eq_error`).

The reader is a mutual recursion over some forty steps. What all of them keep is that the rest of
the text is an end of the text, and that the flags were written in it (`Within`). `Ends` says of
one step that it keeps this, what it gives, and how it may fail; it is put together along the
steps of the reader.
-/

namespace Headline.Pattern

open Parse Text

/-! ## What the text of a pattern shows -/

/-- The brace that opens the bounds of a repetition. -/
def brace : Char := Char.ofNat 0x7B

/-- Ten digits or more stand in a row. -/
def HasLongNumber (source : List Char) : Prop :=
  ∃ ds, ds <:+: source ∧ 10 ≤ ds.length ∧ ∀ c ∈ ds, c.isDigit = true

/-- A flag can have been set for the whole pattern. -/
def Sets (source : List Char) (f : Flag) : Prop :=
  ['(', '?'] <:+: source ∧ ∃ c ∈ source, Flag.ofLetter? c = some f

/-- What the text of a pattern shows that fails without a defect. -/
inductive Exceeds (source : List Char) : Fault → Prop
  | rounds (hbrace : brace ∈ source) (h : HasLongNumber source) : Exceeds source .tooManyRounds
  | bound (hbrace : brace ∈ source) (h : HasLongNumber source) (fault : NumeralFault) :
      Exceeds source (.longBound fault)
  | escape (h : ['\\', 'U'] <:+: source) : Exceeds source .escapeTooLarge
  | flags (hascii : Sets source .ascii) (hunicode : Sets source .unicode) :
      Exceeds source .clashingFlags

/-! ## Steps of the reader -/

variable {source : List Char} {b : Builder} {α β : Type}

/-- The reader is in a text, and has its flags from there. -/
structure Within (source : List Char) (b : Builder) : Prop where
  rest : b.rest <:+ source
  flags : ∀ f ∈ b.flags, Sets source f

/-- A step of the reader leaves it in the text and gives what `Q` says, or fails with a defect or
for a reason that the text shows. -/
def Ends (source : List Char) (b : Builder) (x : Parse α) (Q : α → Builder → Prop) : Prop :=
  match x.run b with
  | .ok (a, b') => Within source b' ∧ Q a b'
  | .error f => f.isDefect = true ∨ Exceeds source f

namespace Ends

variable {x : Parse α} {f : α → Parse β} {P Q : α → Builder → Prop} {R : β → Builder → Prop}

theorem pure {a : α} (hb : Within source b) (h : Q a b) : Ends source b (pure a) Q := ⟨hb, h⟩

theorem bind (hx : Ends source b x P)
    (hf : ∀ a b', Within source b' → P a b' → Ends source b' (f a) R) :
    Ends source b (x >>= f) R := by
  unfold Ends at hx ⊢
  rw [StateT.run_bind]
  cases hrun : x.run b with
  | error e =>
      rw [hrun] at hx
      exact hx
  | ok r =>
      rw [hrun] at hx
      exact hf r.1 r.2 hx.1 hx.2

theorem imp (hx : Ends source b x P) (h : ∀ a b', P a b' → Q a b') : Ends source b x Q := by
  unfold Ends at hx ⊢
  cases hrun : x.run b with
  | error e =>
      rw [hrun] at hx
      exact hx
  | ok r =>
      rw [hrun] at hx
      exact ⟨hx.1, h _ _ hx.2⟩

theorem get (hb : Within source b) : Ends source b get fun a b' => a = b ∧ b' = b :=
  ⟨hb, rfl, rfl⟩

theorem modify {g : Builder → Builder} (h : Within source (g b)) :
    Ends source b (modify g) fun _ b' => b' = g b := ⟨h, rfl⟩

theorem set {b' : Builder} (h : Within source b') :
    Ends source b (set b') fun _ b'' => b'' = b' := ⟨h, rfl⟩

theorem ite {c : Prop} [Decidable c] {y : Parse α} (ht : c → Ends source b x Q)
    (he : ¬c → Ends source b y Q) : Ends source b (if c then x else y) Q := by
  split
  · exact ht ‹c›
  · exact he ‹¬c›

theorem failBack {p : Problem} {n : Nat} : Ends source b (failBack p n : Parse α) Q :=
  Or.inl rfl

theorem failAt {p : Problem} {n : Nat} : Ends source b (failAt p n : Parse α) Q := Or.inl rfl

end Ends

/-! ## Tokens -/

theorem nextToken_prefix {rest t : List Char} (h : nextToken rest = some t) : t <+: rest := by
  unfold nextToken at h
  split at h
  next => cases h
  next => cases h; simp
  next => cases h; simp

theorem moveTo_ends {rest : List Char} {pos : Nat} (hb : Within source b)
    (hrest : rest <:+ source) :
    Ends source b (moveTo rest pos) fun _ b' => b'.rest = rest := by
  unfold moveTo
  refine Ends.ite (fun _ => Or.inl rfl) fun _ => ?_
  exact (Ends.modify ⟨hrest, hb.flags⟩).imp fun _ b' h => h ▸ rfl

theorem peek_ends (hb : Within source b) :
    Ends source b peek fun t? b' => b' = b ∧ t? = nextToken b.rest :=
  (Ends.get hb).bind fun a b' hb' h => Ends.pure hb' ⟨h.2, by rw [h.1]⟩

/-- What a step took from the front of the rest. -/
def Took (b b' : Builder) (cs : List Char) : Prop := b.rest = cs ++ b'.rest

theorem Took.isInfix {b' : Builder} {cs : List Char} (h : Took b b' cs) (hb : Within source b) :
    cs <:+: source :=
  List.IsInfix.trans ⟨[], b'.rest, by rw [List.nil_append]; exact h.symm⟩ hb.rest.isInfix

theorem Took.suffix {b' : Builder} {cs : List Char} (h : Took b b' cs) (hb : Within source b) :
    cs ++ b'.rest <:+ source := h ▸ hb.rest

theorem Took.mem {b' : Builder} {cs : List Char} {c : Char} (h : Took b b' cs)
    (hb : Within source b) (hc : c ∈ cs) : c ∈ source := (h.isInfix hb).subset hc

theorem tell_ends (hb : Within source b) : Ends source b tell fun _ b' => b' = b :=
  (Ends.get hb).bind fun _ _ hb' h => Ends.pure hb' h.2

theorem take_ends (hb : Within source b) :
    Ends source b take fun t? b' => t? = nextToken b.rest ∧ ∀ t, t? = some t → Took b b' t := by
  unfold take
  refine (Ends.get hb).bind fun a b₁ hb₁ h => ?_
  obtain ⟨rfl, rfl⟩ := h
  cases ht : nextToken b₁.rest with
  | none => exact Ends.pure hb₁ ⟨rfl, nofun⟩
  | some t =>
      obtain ⟨rest, hrest⟩ := nextToken_prefix ht
      have hdrop : b₁.rest.drop t.length = rest := by rw [← hrest, List.drop_left]
      refine (moveTo_ends hb₁ ?_).bind fun _ b₂ hb₂ h₂ => Ends.pure hb₂ ⟨rfl, ?_⟩
      · exact (List.drop_suffix _ _).trans hb₁.rest
      · rintro _ ⟨⟩
        rw [Took, h₂, hdrop, hrest]

theorem accept_ends (c : Char) (hb : Within source b) :
    Ends source b (accept c) fun taken b' => taken = true → Took b b' [c] := by
  unfold accept
  refine (peek_ends hb).bind fun t? b₁ hb₁ h => ?_
  obtain ⟨rfl, rfl⟩ := h
  refine Ends.ite (fun ht => ?_) fun _ => Ends.pure hb₁ nofun
  refine (take_ends hb₁).bind fun t? b₂ hb₂ h₂ => Ends.pure hb₂ fun _ => ?_
  exact h₂.2 _ (h₂.1.trans ht)

theorem takeWhile_ends (p : Char → Bool) (n : Nat) (hb : Within source b) :
    Ends source b (takeWhile p n) fun cs b' => Took b b' cs ∧ ∀ c ∈ cs, p c = true := by
  induction n generalizing b with
  | zero => exact Ends.pure hb ⟨rfl, nofun⟩
  | succ n ih =>
      unfold takeWhile
      refine (peek_ends hb).bind fun t? b₁ hb₁ h => ?_
      obtain ⟨rfl, rfl⟩ := h
      split
      next c ht =>
        refine Ends.ite (fun hc => ?_) fun _ => Ends.pure hb₁ ⟨rfl, nofun⟩
        refine (take_ends hb₁).bind fun t? b₂ hb₂ h₂ => ?_
        have htook : Took b₁ b₂ [c] := h₂.2 _ (h₂.1.trans ht)
        refine (ih hb₂).bind fun cs b₃ hb₃ h₃ => Ends.pure hb₃ ⟨?_, ?_⟩
        · rw [Took, htook, h₃.1]
          rfl
        · intro c' hc'
          rcases List.mem_cons.mp hc' with rfl | hc'
          · exact hc
          · exact h₃.2 c' hc'
      next => exact Ends.pure hb₁ ⟨rfl, nofun⟩

theorem takeUntil_ends (terminator : Char) (what : String) (fuel : Nat) (taken : List Char)
    (hb : Within source b) :
    Ends source b (takeUntil terminator what fuel taken) fun _ _ => True := by
  induction fuel generalizing b taken with
  | zero => exact Ends.failBack
  | succ fuel ih =>
      unfold takeUntil
      refine (take_ends hb).bind fun t? b₁ hb₁ h => ?_
      split
      next => exact Ends.ite (fun _ => Ends.failBack) fun _ => Ends.failBack
      next t =>
        refine Ends.ite (fun _ => ?_) fun _ => ih _ hb₁
        exact Ends.ite (fun _ => Ends.failBack) fun _ => Ends.pure hb₁ trivial

theorem takeName_ends (terminator : Char) (what : String) (hb : Within source b) :
    Ends source b (takeName terminator what) fun _ _ => True := by
  refine (Ends.get hb).bind fun a b₁ hb₁ h => ?_
  exact (takeUntil_ends _ _ _ _ hb₁).bind fun cs b₂ hb₂ _ => Ends.pure hb₂ trivial

theorem checkName_ends (name : String) (hb : Within source b) :
    Ends source b (checkName name) fun _ _ => True :=
  Ends.ite (fun _ => Ends.failBack) fun _ => Ends.pure hb trivial

theorem isClosed_ends (group : Nat) (hb : Within source b) :
    Ends source b (isClosed group) fun _ _ => True :=
  (Ends.get hb).bind fun _ _ hb₁ _ => Ends.pure hb₁ trivial

theorem groupWidths_ends (hb : Within source b) :
    Ends source b groupWidths fun _ _ => True :=
  (Ends.get hb).bind fun _ _ hb₁ _ => Ends.pure hb₁ trivial

theorem checkLookbehind_ends (group : Nat) (hb : Within source b) :
    Ends source b (checkLookbehind group) fun _ _ => True := by
  refine (Ends.get hb).bind fun a b₁ hb₁ h => ?_
  split
  next => exact Ends.pure hb₁ trivial
  next before =>
    refine (isClosed_ends group hb₁).bind fun closed b₂ hb₂ _ => ?_
    refine Ends.ite (fun _ => Ends.failBack) fun _ => ?_
    exact Ends.ite (fun _ => Ends.failBack) fun _ => Ends.pure hb₂ trivial

/-! ## Numbers -/

theorem digitValue_le {c : Char} {d : Nat} (h : digitValue c = some d) : d ≤ 9 := by
  rw [digitValue, Option.map_eq_some_iff] at h
  obtain ⟨z, hz, rfl⟩ := h
  have hle := List.find?_some hz
  simp only [Bool.and_eq_true, decide_eq_true_eq] at hle
  omega

theorem digitInBase_le (c : Char) : (digitInBase c).getD 0 ≤ 35 := by
  unfold digitInBase
  split
  next d hd =>
    have hle := digitValue_le hd
    exact Nat.le_trans hle (by decide)
  next =>
    dsimp only
    split
    next hlower =>
      simp only [Bool.and_eq_true, decide_eq_true_eq] at hlower
      show c.toNat - 0x57 ≤ 35
      omega
    next =>
      split
      next hupper =>
        simp only [Bool.and_eq_true, decide_eq_true_eq] at hupper
        show c.toNat - 0x37 ≤ 35
        omega
      next => exact Nat.zero_le _

theorem digitInBase_le_of_isDigit {c : Char} (h : c.isDigit = true) :
    (digitInBase c).getD 0 ≤ 9 := by
  unfold digitInBase
  split
  next d hd => exact digitValue_le hd
  next =>
    have hrange : c.toNat ≤ 57 := by
      simp [Char.isDigit] at h
      exact h.2
    dsimp only
    rw [if_neg, if_neg]
    · exact Nat.zero_le _
    · simp; omega
    · simp; omega

/-- A number is below the one after as many of the greatest digits. -/
theorem digitsIn_add_le {base m : Nat} {ds : List Char}
    (hd : ∀ c ∈ ds, (digitInBase c).getD 0 + m ≤ m * base) :
    digitsIn base ds + m ≤ m * base ^ ds.length := by
  suffices h : ∀ acc, ds.foldl (fun n c => n * base + (digitInBase c).getD 0) acc + m
      ≤ (acc + m) * base ^ ds.length by
    have h0 := h 0
    rw [Nat.zero_add] at h0
    exact h0
  induction ds with
  | nil => intro acc; simp
  | cons c ds ih =>
      intro acc
      rw [List.foldl_cons, List.length_cons, Nat.pow_succ']
      refine (ih (fun c hc => hd c (List.mem_cons_of_mem _ hc)) _).trans ?_
      rw [← Nat.mul_assoc]
      refine Nat.mul_le_mul_right _ ?_
      have hc := hd c (List.mem_cons_self ..)
      rw [Nat.add_mul]
      omega

/-! ## Escapes -/

/-- Four hexadecimal digits are below every limit, so only the widest escape can exceed one. -/
theorem hexEscape_ends (letter : Char) (width : Nat)
    (hwide : 4 < width → ['\\', 'U'] <:+: source) (hb : Within source b) :
    Ends source b (hexEscape letter width) fun _ _ => True := by
  unfold hexEscape
  refine (takeWhile_ends isHex width hb).bind fun ds b₁ hb₁ h => ?_
  refine Ends.ite (fun _ => Ends.failBack) fun hlength => ?_
  refine Ends.ite (fun hlarge => ?_) fun _ => ?_
  · refine Or.inr (.escape (hwide ?_))
    by_contra hnarrow
    have hle : digitsIn 16 ds + 3 ≤ 3 * 16 ^ ds.length := digitsIn_add_le fun c _ => by
      have hc := digitInBase_le c
      omega
    have hpow : 16 ^ ds.length ≤ 16 ^ 4 := Nat.pow_le_pow_right (by decide) (by omega)
    omega
  · exact Ends.ite (fun _ => Ends.failBack) fun _ => Ends.pure hb₁ trivial

theorem namedEscape_ends (hb : Within source b) :
    Ends source b namedEscape fun _ _ => True := by
  unfold namedEscape
  refine (accept_ends _ hb).bind fun taken b₁ hb₁ _ => ?_
  refine Ends.ite (fun _ => Ends.failBack) fun _ => ?_
  refine (takeName_ends _ _ hb₁).bind fun name b₂ hb₂ _ => ?_
  refine (Ends.get hb₂).bind fun a b₃ hb₃ _ => ?_
  split
  next => exact Ends.pure hb₃ trivial
  next => exact Ends.failBack

theorem plainEscape_ends (c : Char) (hb : Within source b) :
    Ends source b (plainEscape c) fun _ _ => True :=
  Ends.ite (fun _ => Ends.failBack) fun _ => Ends.pure hb trivial

theorem octalEscape_ends (first : List Char) (hb : Within source b) :
    Ends source b (octalEscape first) fun _ _ => True :=
  Ends.ite (fun _ => Ends.failBack) fun _ => Ends.pure hb trivial

theorem setEscape_ends (asciiOnly : Bool) {c : Char} (hc : ['\\', c] <:+: source)
    (hb : Within source b) : Ends source b (setEscape asciiOnly c) fun _ _ => True := by
  unfold setEscape
  refine Ends.ite (fun _ => Ends.pure hb trivial) fun _ => ?_
  split
  next => exact Ends.pure hb trivial
  next => exact Ends.pure hb trivial
  next =>
    refine Ends.ite (fun _ => hexEscape_ends _ _ (fun h => absurd h (by decide)) hb) fun _ => ?_
    refine Ends.ite (fun _ => hexEscape_ends _ _ (fun h => absurd h (by decide)) hb) fun _ => ?_
    refine Ends.ite (fun hcap => hexEscape_ends _ _ (fun _ => hcap ▸ hc) hb) fun _ => ?_
    refine Ends.ite (fun _ => namedEscape_ends hb) fun _ => ?_
    refine Ends.ite (fun _ => ?_) fun _ => plainEscape_ends c hb
    exact (takeWhile_ends isOctal 2 hb).bind fun ds b₁ hb₁ _ => octalEscape_ends _ hb₁

theorem groupEscape_ends (digits : List Char) (hb : Within source b) :
    Ends source b (groupEscape digits) fun _ _ => True := by
  unfold groupEscape
  refine (Ends.get hb).bind fun a b₁ hb₁ _ => ?_
  refine Ends.ite (fun _ => ?_) fun _ => Ends.failBack
  refine (isClosed_ends _ hb₁).bind fun closed b₂ hb₂ _ => ?_
  refine Ends.ite (fun _ => Ends.failBack) fun _ => ?_
  exact (checkLookbehind_ends _ hb₂).bind fun _ b₃ hb₃ _ => Ends.pure hb₃ trivial

theorem digitEscape_ends (c : Char) (hb : Within source b) :
    Ends source b (digitEscape c) fun _ _ => True := by
  unfold digitEscape
  refine (takeWhile_ends Char.isDigit 1 hb).bind fun ds b₁ hb₁ _ => ?_
  split
  next => exact groupEscape_ends _ hb₁
  next =>
    refine Ends.ite (fun _ => ?_) fun _ => groupEscape_ends _ hb₁
    refine (takeWhile_ends isOctal 1 hb₁).bind fun es b₂ hb₂ _ => ?_
    split
    next => exact groupEscape_ends _ hb₂
    next => exact octalEscape_ends _ hb₂

theorem escape_ends (asciiOnly : Bool) {c : Char} (hc : ['\\', c] <:+: source)
    (hb : Within source b) : Ends source b (escape asciiOnly c) fun _ _ => True := by
  unfold escape
  split
  next => exact Ends.pure hb trivial
  next => exact Ends.pure hb trivial
  next => exact Ends.pure hb trivial
  next =>
    refine Ends.ite (fun _ => hexEscape_ends _ _ (fun h => absurd h (by decide)) hb) fun _ => ?_
    refine Ends.ite (fun _ => hexEscape_ends _ _ (fun h => absurd h (by decide)) hb) fun _ => ?_
    refine Ends.ite (fun hcap => hexEscape_ends _ _ (fun _ => hcap ▸ hc) hb) fun _ => ?_
    refine Ends.ite (fun _ => namedEscape_ends hb) fun _ => ?_
    refine Ends.ite (fun _ => ?_) fun _ => ?_
    · exact (takeWhile_ends isOctal 2 hb).bind fun ds b₁ hb₁ _ => Ends.pure hb₁ trivial
    · exact Ends.ite (fun _ => digitEscape_ends c hb) fun _ => plainEscape_ends c hb

/-! ## Sets -/

theorem setMember_ends (asciiOnly : Bool) {t : Token} (ht : t <:+: source)
    (hb : Within source b) : Ends source b (setMember asciiOnly t) fun _ _ => True := by
  unfold setMember
  split
  next => exact Ends.pure hb trivial
  next => exact setEscape_ends asciiOnly ht hb
  next => exact Ends.pure hb trivial

theorem setItems_ends (asciiOnly : Bool) (start fuel : Nat) (items : List SetItem)
    (hb : Within source b) :
    Ends source b (setItems asciiOnly start fuel items) fun _ _ => True := by
  induction fuel generalizing b items with
  | zero => exact Ends.pure hb trivial
  | succ fuel ih =>
      unfold setItems
      refine (take_ends hb).bind fun this? b₁ hb₁ h => ?_
      split
      next => exact Ends.failAt
      next this =>
        have hthis : this <:+: source := (h.2 this rfl).isInfix hb
        refine Ends.ite (fun _ => Ends.pure hb₁ trivial) fun _ => ?_
        refine (setMember_ends asciiOnly hthis hb₁).bind fun low b₂ hb₂ _ => ?_
        refine (accept_ends '-' hb₂).bind fun dash b₃ hb₃ _ => ?_
        refine Ends.ite (fun _ => ?_) fun _ => ih _ hb₃
        refine (take_ends hb₃).bind fun that? b₄ hb₄ h => ?_
        split
        next => exact Ends.failAt
        next => exact Ends.pure hb₄ trivial
        next that _ =>
          have hthat : that <:+: source := (h.2 that rfl).isInfix hb₃
          refine (setMember_ends asciiOnly hthat hb₄).bind fun high b₅ hb₅ _ => ?_
          dsimp only
          split
          next => exact Ends.ite (fun _ => Ends.failBack) fun _ => ih _ hb₅
          next => exact Ends.failBack

/-! ## Flags -/

/-- The letter of a flag stands in the text. -/
def Written (source : List Char) (f : Flag) : Prop := ∃ c ∈ source, Flag.ofLetter? c = some f

theorem written_of_flagOf? {t : Token} {f : Flag} (ht : t <:+: source) (h : flagOf? t = some f) :
    Written source f := by
  unfold flagOf? at h
  split at h
  next c => exact ⟨c, ht.subset (List.mem_singleton.mpr rfl), h⟩
  next => cases h

theorem flagsOn_ends (fuel : Nat) {flag : Flag} {on : List Flag} (hflag : Written source flag)
    (hon : ∀ f ∈ on, Written source f) (hb : Within source b) :
    Ends source b (flagsOn fuel flag on) fun r _ => ∀ f ∈ r.1, Written source f := by
  induction fuel generalizing b flag on with
  | zero => exact Ends.pure hb hon
  | succ fuel ih =>
      have hmore : ∀ f ∈ on ++ [flag], Written source f := fun f hf => by
        rcases List.mem_append.mp hf with hf | hf
        · exact hon f hf
        · exact List.mem_singleton.mp hf ▸ hflag
      unfold flagsOn
      refine Ends.ite (fun _ => Ends.failBack) fun _ => ?_
      refine Ends.ite (fun _ => Ends.failBack) fun _ => ?_
      refine (take_ends hb).bind fun t? b₁ hb₁ h => ?_
      split
      next => exact Ends.failBack
      next => exact Ends.pure hb₁ hmore
      next => exact Ends.pure hb₁ hmore
      next => exact Ends.pure hb₁ hmore
      next t _ _ _ =>
        split
        next next? hnext =>
          exact ih (written_of_flagOf? ((h.2 t rfl).isInfix hb) hnext) hmore hb₁
        next => exact Ends.failBack

theorem flagsOff_ends (fuel : Nat) (flag : Flag) (off : List Flag) (hb : Within source b) :
    Ends source b (flagsOff fuel flag off) fun _ _ => True := by
  induction fuel generalizing b flag off with
  | zero => exact Ends.pure hb trivial
  | succ fuel ih =>
      unfold flagsOff
      refine Ends.ite (fun _ => Ends.failBack) fun _ => ?_
      refine (take_ends hb).bind fun t? b₁ hb₁ _ => ?_
      split
      next => exact Ends.failBack
      next => exact Ends.pure hb₁ trivial
      next =>
        split
        next => exact ih _ _ hb₁
        next => exact Ends.failBack

theorem flagGroup_ends {first : Token} (hopen : ['(', '?'] <:+: source)
    (hfirst : first <:+: source) (hb : Within source b) :
    Ends source b (flagGroup first) fun _ _ => True := by
  unfold flagGroup
  refine (Ends.get hb).bind fun a b₁ hb₁ _ => ?_
  extract_lets fuel rest
  have hrest : ∀ r b₂, Within source b₂ → (∀ f ∈ r.1, Written source f) →
      Ends source b₂ (rest r) fun _ _ => True := by
    rintro ⟨on, ending⟩ b₂ hb₂ hon
    refine Ends.ite (fun _ => ?_) fun _ => Ends.ite (fun _ => Ends.failBack) fun _ => ?_
    · refine (Ends.modify ⟨hb₂.rest, fun f hf => ?_⟩).bind fun _ b₃ hb₃ _ => Ends.pure hb₃ trivial
      rcases List.mem_append.mp hf with hf | hf
      · exact hb₂.flags f hf
      · exact ⟨hopen, hon f hf⟩
    · extract_lets close
      have hclose : ∀ off b₃, Within source b₃ → Ends source b₃ (close off) fun _ _ => True :=
        fun off b₃ hb₃ => Ends.ite (fun _ => Ends.failBack) fun _ =>
          Ends.ite (fun _ => Ends.failBack) fun _ => Ends.pure hb₃ trivial
      refine Ends.ite (fun _ => ?_) fun _ => hclose [] b₂ hb₂
      refine (take_ends hb₂).bind fun t? b₃ hb₃ _ => ?_
      split
      next => exact Ends.failBack
      next =>
        split
        next => exact (flagsOff_ends _ _ _ hb₃).bind fun off b₄ hb₄ _ => hclose off b₄ hb₄
        next => exact Ends.failBack
  split
  next flag hflag =>
    have hwritten := written_of_flagOf? hfirst hflag
    exact (flagsOn_ends fuel hwritten (List.forall_mem_nil _) hb₁).bind hrest
  next => exact hrest ([], '-') b₁ hb₁ (List.forall_mem_nil _)

/-! ## Repetitions -/

theorem bound?_ends {ds : List Char} (hbrace : brace ∈ source) (hds : ds <:+: source)
    (hdigits : ∀ c ∈ ds, c.isDigit = true) (hb : Within source b) :
    Ends source b (bound? ds) fun _ _ => True := by
  unfold bound?
  refine Ends.ite (fun _ => Ends.pure hb trivial) fun _ => ?_
  refine Ends.ite (fun hlong => ?_) fun _ => Ends.ite (fun hmany => ?_) fun _ => ?_
  · exact Or.inr (.bound hbrace ⟨ds, hds, by omega, hdigits⟩ _)
  · refine Or.inr (.rounds hbrace ⟨ds, hds, ?_, hdigits⟩)
    by_contra hshort
    have hle : digitsIn 10 ds + 1 ≤ 1 * 10 ^ ds.length := digitsIn_add_le fun c hc => by
      have hdigit := digitInBase_le_of_isDigit (hdigits c hc)
      omega
    have hpow : 10 ^ ds.length ≤ 10 ^ 9 := Nat.pow_le_pow_right (by decide) (by omega)
    have hlimit : Regex.roundLimit = 4294967295 := rfl
    omega
  · exact Ends.pure hb trivial

theorem roundBounds_ends {c : Char} (hmem : c ∈ source)
    (hc : c = '*' ∨ c = '+' ∨ c = '?' ∨ c = brace) (hb : Within source b) :
    Ends source b (roundBounds c) fun _ _ => True := by
  unfold roundBounds
  refine Ends.ite (fun _ => Ends.pure hb trivial) fun hquestion => ?_
  refine Ends.ite (fun _ => Ends.pure hb trivial) fun hstar => ?_
  refine Ends.ite (fun _ => Ends.pure hb trivial) fun hplus => ?_
  have hbrace : brace ∈ source := by
    rcases hc with h | h | h | h
    · exact absurd h hstar
    · exact absurd h hplus
    · exact absurd h hquestion
    · exact h ▸ hmem
  refine (Ends.get hb).bind fun a b₁ hb₁ h => ?_
  obtain ⟨rfl, rfl⟩ := h
  refine (peek_ends hb₁).bind fun t? b₂ hb₂ _ => ?_
  refine Ends.ite (fun _ => Ends.pure hb₂ trivial) fun _ => ?_
  refine (takeWhile_ends _ _ hb₂).bind fun lo b₃ hb₃ hlo => ?_
  extract_lets rest
  have hrest : ∀ hi b₄, Within source b₄ → (hi <:+: source ∧ ∀ c ∈ hi, c.isDigit = true) →
      Ends source b₄ (rest hi) fun _ _ => True := by
    intro hi b₄ hb₄ hhi
    refine (accept_ends _ hb₄).bind fun closed b₅ hb₅ _ => Ends.ite (fun _ => ?_) fun _ => ?_
    · exact (moveTo_ends hb₅ hb₁.rest).bind fun _ b₆ hb₆ _ => Ends.pure hb₆ trivial
    · refine (bound?_ends hbrace (hlo.1.isInfix hb₂) hlo.2 hb₅).bind fun lo? b₆ hb₆ _ => ?_
      refine (bound?_ends hbrace hhi.1 hhi.2 hb₆).bind fun hi? b₇ hb₇ _ => ?_
      exact Ends.ite (fun _ => Ends.failAt) fun _ => Ends.pure hb₇ trivial
  refine (accept_ends _ hb₃).bind fun comma b₄ hb₄ _ => Ends.ite (fun _ => ?_) fun _ => ?_
  · refine (takeWhile_ends _ _ hb₄).bind fun hi b₅ hb₅ hhi => ?_
    exact hrest hi b₅ hb₅ ⟨hhi.1.isInfix hb₄, hhi.2⟩
  · exact hrest lo b₄ hb₄ ⟨hlo.1.isInfix hb₂, hlo.2⟩

theorem takeGreed_ends (hb : Within source b) : Ends source b takeGreed fun _ _ => True := by
  unfold takeGreed
  refine (accept_ends _ hb).bind fun reluctant b₁ hb₁ _ => ?_
  refine Ends.ite (fun _ => Ends.pure hb₁ trivial) fun _ => ?_
  refine (accept_ends _ hb₁).bind fun possessive b₂ hb₂ _ => ?_
  exact Ends.ite (fun _ => Ends.pure hb₂ trivial) fun _ => Ends.pure hb₂ trivial

theorem repeatLast_ends (items : List Item) (min : Nat) (max : Option Nat) (pos : Nat)
    (hb : Within source b) :
    Ends source b (repeatLast items min max pos) fun _ _ => True := by
  unfold repeatLast
  split
  next => exact Ends.failAt
  next =>
    refine Ends.ite (fun _ => Ends.failAt) fun _ => Ends.ite (fun _ => Ends.failAt) fun _ => ?_
    exact (takeGreed_ends hb).bind fun greed b₁ hb₁ _ => Ends.pure hb₁ trivial

/-! ## Groups -/

theorem skipLine_ends (fuel : Nat) (hb : Within source b) :
    Ends source b (skipLine fuel) fun _ _ => True := by
  induction fuel generalizing b with
  | zero => exact Ends.pure hb trivial
  | succ fuel ih =>
      unfold skipLine
      refine (take_ends hb).bind fun t? b₁ hb₁ _ => ?_
      split
      next => exact Ends.pure hb₁ trivial
      next => exact Ends.pure hb₁ trivial
      next => exact ih hb₁

theorem skipComment_ends (start fuel : Nat) (hb : Within source b) :
    Ends source b (skipComment start fuel) fun _ _ => True := by
  induction fuel generalizing b with
  | zero => exact Ends.pure hb trivial
  | succ fuel ih =>
      unfold skipComment
      refine (peek_ends hb).bind fun t? b₁ hb₁ _ => ?_
      split
      next => exact Ends.failAt
      next =>
        refine (take_ends hb₁).bind fun t? b₂ hb₂ _ => ?_
        exact Ends.ite (fun _ => Ends.pure hb₂ trivial) fun _ => ih hb₂

theorem namedReference_ends (flags : List Flag) (hb : Within source b) :
    Ends source b (namedReference flags) fun _ _ => True := by
  unfold namedReference
  refine (takeName_ends _ _ hb).bind fun name b₁ hb₁ _ => ?_
  refine (checkName_ends name hb₁).bind fun _ b₂ hb₂ _ => ?_
  refine (Ends.get hb₂).bind fun a b₃ hb₃ _ => ?_
  split
  next => exact Ends.failBack
  next group _ =>
    refine (isClosed_ends group hb₃).bind fun closed b₄ hb₄ _ => ?_
    refine Ends.ite (fun _ => Ends.failBack) fun _ => ?_
    exact (checkLookbehind_ends group hb₄).bind fun _ b₅ hb₅ _ => Ends.pure hb₅ trivial

theorem conditionGroup_ends (hb : Within source b) :
    Ends source b conditionGroup fun _ _ => True := by
  unfold conditionGroup
  refine (takeName_ends _ _ hb).bind fun name b₁ hb₁ _ => ?_
  extract_lets back rest
  have hrest : ∀ group b₂, Within source b₂ → Ends source b₂ (rest group) fun _ _ => True :=
    fun group b₂ hb₂ => (checkLookbehind_ends group hb₂).bind fun _ b₃ hb₃ _ =>
      Ends.pure hb₃ trivial
  refine Ends.ite (fun _ => ?_) fun _ => ?_
  · refine (Ends.get hb₁).bind fun a b₂ hb₂ _ => ?_
    split
    next => exact Ends.failBack
    next group _ => exact hrest group b₂ hb₂
  · split
    next => exact Ends.failBack
    next n _ _ =>
      refine Ends.ite (fun _ => Ends.failBack) fun _ => ?_
      refine (Ends.get hb₁).bind fun a b₂ hb₂ h => ?_
      obtain ⟨rfl, rfl⟩ := h
      refine Ends.ite (fun _ => ?_) fun _ => hrest n _ hb₂
      exact Ends.bind (Ends.set ⟨hb₂.rest, hb₂.flags⟩) fun _ b₃ hb₃ _ => hrest n b₃ hb₃
    next => exact Ends.failBack

theorem openGroup_ends (name : Option String) (hb : Within source b) :
    Ends source b (openGroup name) fun _ _ => True := by
  unfold openGroup
  refine (Ends.get hb).bind fun a b₁ hb₁ h => ?_
  obtain ⟨rfl, rfl⟩ := h
  extract_lets group rest
  split
  next => exact Ends.bind (Ends.set ⟨hb₁.rest, hb₁.flags⟩) fun _ b₂ hb₂ _ => Ends.pure hb₂ trivial
  next =>
    split
    next => exact Ends.failBack
    next => exact Ends.bind (Ends.set ⟨hb₁.rest, hb₁.flags⟩) fun _ b₂ hb₂ _ => Ends.pure hb₂ trivial

theorem closeGroup_ends (group : Nat) (body : Regex) (hb : Within source b) :
    Ends source b (closeGroup group body) fun _ _ => True := by
  unfold closeGroup
  refine (groupWidths_ends hb).bind fun widths b₁ hb₁ _ => ?_
  exact (Ends.modify ⟨hb₁.rest, hb₁.flags⟩).imp fun _ _ _ => trivial

/-- The head of a group, after its parenthesis. -/
theorem groupHead_ends (flags : List Flag) (start : Nat) (hopen : '(' :: b.rest <:+ source)
    (hb : Within source b) : Ends source b (groupHead flags start) fun _ _ => True := by
  unfold groupHead
  refine (accept_ends _ hb).bind fun question b₁ hb₁ hquestion => ?_
  refine Ends.ite (fun _ => Ends.pure hb₁ trivial) fun htaken => ?_
  have hmark : ['(', '?'] <:+: source := by
    have htook : Took b b₁ ['?'] := hquestion (by simpa using htaken)
    rw [htook] at hopen
    exact List.IsInfix.trans ⟨[], b₁.rest, rfl⟩ hopen.isInfix
  refine (take_ends hb₁).bind fun t? b₂ hb₂ ht => ?_
  split
  next => exact Ends.failBack
  next =>
    refine (accept_ends _ hb₂).bind fun angle b₃ hb₃ _ => Ends.ite (fun _ => ?_) fun _ => ?_
    · refine (takeName_ends _ _ hb₃).bind fun name b₄ hb₄ _ => ?_
      exact (checkName_ends name hb₄).bind fun _ b₅ hb₅ _ => Ends.pure hb₅ trivial
    · refine (accept_ends _ hb₃).bind fun equal b₄ hb₄ _ => Ends.ite (fun _ => ?_) fun _ => ?_
      · exact (namedReference_ends flags hb₄).bind fun item b₅ hb₅ _ => Ends.pure hb₅ trivial
      · refine (take_ends hb₄).bind fun t? b₅ hb₅ _ => ?_
        split
        next => exact Ends.failBack
        next => exact Ends.failBack
  next => exact Ends.pure hb₂ trivial
  next =>
    refine (Ends.get hb₂).bind fun a b₃ hb₃ _ => ?_
    exact (skipComment_ends _ _ hb₃).bind fun _ b₄ hb₄ _ => Ends.pure hb₄ trivial
  next => exact Ends.pure hb₂ trivial
  next => exact Ends.pure hb₂ trivial
  next =>
    refine (take_ends hb₂).bind fun t? b₃ hb₃ _ => ?_
    split
    next => exact Ends.failBack
    next => exact Ends.pure hb₃ trivial
    next => exact Ends.pure hb₃ trivial
    next => exact Ends.failBack
  next => exact Ends.pure hb₂ trivial
  next => exact Ends.pure hb₂ trivial
  next t _ _ _ _ _ _ _ _ =>
    refine Ends.ite (fun _ => ?_) fun _ => Ends.failBack
    have htoken : t <:+: source := (ht.2 t rfl).isInfix hb₁
    refine (flagGroup_ends hmark htoken hb₂).bind fun r b₃ hb₃ _ => ?_
    split
    next => exact Ends.pure hb₃ trivial
    next => exact Ends.pure hb₃ trivial

theorem closeParenthesis_ends (start : Nat) (hb : Within source b) :
    Ends source b (closeParenthesis start) fun _ _ => True := by
  unfold closeParenthesis
  refine (accept_ends _ hb).bind fun closed b₁ hb₁ _ => ?_
  exact Ends.ite (fun _ => Ends.failAt) fun _ => Ends.pure hb₁ trivial

/-! ## Sequences and alternatives -/

/-- What is read within a number of steps ends as it should. -/
structure Reads (source : List Char) (fuel : Nat) : Prop where
  alternatives : ∀ scope branches b, Within source b →
    Ends source b (alternatives fuel scope branches) fun _ _ => True
  sequence : ∀ scope first items b, Within source b →
    Ends source b (sequence fuel scope first items) fun _ _ => True
  group : ∀ flags start head b, Within source b →
    Ends source b (group fuel flags start head) fun _ _ => True

variable {fuel : Nat}

theorem Reads.alternatives_succ (h : Reads source fuel) (scope : Option (List Flag))
    (branches : List Regex) (hb : Within source b) :
    Ends source b (Pattern.alternatives (fuel + 1) scope branches) fun _ _ => True := by
  unfold Pattern.alternatives
  refine (h.sequence _ _ _ _ hb).bind fun items b₁ hb₁ _ => ?_
  refine (accept_ends _ hb₁).bind fun bar b₂ hb₂ _ => ?_
  exact Ends.ite (fun _ => h.alternatives _ _ _ hb₂) fun _ => Ends.pure hb₂ trivial

theorem Reads.sequence_succ (h : Reads source fuel) (scope : Option (List Flag)) (first : Bool)
    (items : List Item) (hb : Within source b) :
    Ends source b (Pattern.sequence (fuel + 1) scope first items) fun _ _ => True := by
  unfold Pattern.sequence
  refine (Ends.get hb).bind fun a b₁ hb₁ _ => ?_
  extract_lets flags
  have hmore : ∀ items b₂, Within source b₂ →
      Ends source b₂ (Pattern.sequence fuel scope first items) fun _ _ => True :=
    fun items b₂ hb₂ => h.sequence scope first items b₂ hb₂
  refine (peek_ends hb₁).bind fun t? b₂ hb₂ hnext => ?_
  obtain ⟨rfl, rfl⟩ := hnext
  split
  next => exact Ends.pure hb₂ trivial
  next t ht =>
    refine Ends.ite (fun _ => Ends.pure hb₂ trivial) fun _ => ?_
    refine (tell_ends hb₂).bind fun start b₃ hb₃ hsame => ?_
    subst hsame
    refine (take_ends hb₃).bind fun t? b₄ hb₄ htaken => ?_
    have htook : Took b₃ b₄ t := htaken.2 t (htaken.1.trans ht)
    split
    next c _ =>
      have hmem : c ∈ source := htook.mem hb₃ (List.mem_singleton.mpr rfl)
      refine Ends.ite (fun _ => hmore _ b₄ hb₄) fun _ => ?_
      refine Ends.ite (fun _ => ?_) fun _ => Ends.ite (fun _ => ?_) fun _ => ?_
      · refine (Ends.get hb₄).bind fun a b₅ hb₅ _ => ?_
        exact (skipLine_ends _ hb₅).bind fun _ b₆ hb₆ _ => hmore _ b₆ hb₆
      · refine (accept_ends _ hb₄).bind fun negated b₅ hb₅ _ => ?_
        refine (Ends.get hb₅).bind fun a b₆ hb₆ _ => ?_
        exact (setItems_ends _ _ _ _ hb₆).bind fun members b₇ hb₇ _ => hmore _ b₇ hb₇
      · refine Ends.ite (fun hc => ?_) fun _ => ?_
        · have hround : c = '*' ∨ c = '+' ∨ c = '?' ∨ c = brace := by
            simpa [or_assoc, brace] using hc
          refine (roundBounds_ends hmem hround hb₄).bind fun bounds b₅ hb₅ _ => ?_
          split
          next => exact hmore _ b₅ hb₅
          next => exact (repeatLast_ends _ _ _ _ hb₅).bind fun items b₆ hb₆ _ => hmore items b₆ hb₆
        · refine Ends.ite (fun _ => hmore _ b₄ hb₄) fun _ => ?_
          refine Ends.ite (fun _ => hmore _ b₄ hb₄) fun _ => ?_
          refine Ends.ite (fun _ => hmore _ b₄ hb₄) fun _ => ?_
          refine Ends.ite (fun hparen => ?_) fun _ => hmore _ b₄ hb₄
          subst hparen
          refine (groupHead_ends flags start (htook.suffix hb₃) hb₄).bind fun head b₅ hb₅ _ => ?_
          split
          next => exact hmore _ b₅ hb₅
          next => exact hmore _ b₅ hb₅
          next => exact Ends.ite (fun _ => Ends.failAt) fun _ => hmore _ b₅ hb₅
          next =>
            exact (h.group _ _ _ _ hb₅).bind fun regex b₆ hb₆ _ => hmore _ b₆ hb₆
    next c =>
      exact (escape_ends _ (htook.isInfix hb₃) hb₄).bind fun e b₅ hb₅ _ => hmore _ b₅ hb₅
    next => exact Ends.pure hb₄ trivial

theorem Reads.group_succ (h : Reads source fuel) (flags : List Flag) (start : Nat)
    (head : GroupHead) (hb : Within source b) :
    Ends source b (Pattern.group (fuel + 1) flags start head) fun _ _ => True := by
  have hbody : ∀ scope b₁, Within source b₁ → ∀ made : Regex → Regex,
      Ends source b₁ (do
        let body ← Pattern.alternatives fuel scope []
        closeParenthesis start
        return made body) fun _ _ => True := fun scope b₁ hb₁ made =>
    (h.alternatives scope [] b₁ hb₁).bind fun body b₂ hb₂ _ =>
      (closeParenthesis_ends start hb₂).bind fun _ b₃ hb₃ _ => Ends.pure hb₃ trivial
  unfold Pattern.group
  split
  next name =>
    refine (openGroup_ends name hb).bind fun number b₁ hb₁ _ => ?_
    refine (h.alternatives _ _ _ hb₁).bind fun body b₂ hb₂ _ => ?_
    refine (closeParenthesis_ends start hb₂).bind fun _ b₃ hb₃ _ => ?_
    exact (closeGroup_ends number body hb₃).bind fun _ b₄ hb₄ _ => Ends.pure hb₄ trivial
  next => exact hbody _ b hb id
  next => exact hbody _ b hb .atomic
  next negated => exact hbody _ b hb (.ahead negated)
  next =>
    refine (Ends.get hb).bind fun a b₁ hb₁ h₁ => ?_
    obtain ⟨rfl, rfl⟩ := h₁
    refine Ends.bind (Ends.modify ⟨hb₁.rest, hb₁.flags⟩) fun _ b₂ hb₂ _ => ?_
    refine (h.alternatives _ _ _ hb₂).bind fun body b₃ hb₃ _ => ?_
    refine Ends.bind (Ends.modify ⟨hb₃.rest, hb₃.flags⟩) fun _ b₄ hb₄ _ => ?_
    refine (closeParenthesis_ends start hb₄).bind fun _ b₅ hb₅ _ => ?_
    exact (groupWidths_ends hb₅).bind fun widths b₆ hb₆ _ => Ends.pure hb₆ trivial
  next =>
    refine (conditionGroup_ends hb).bind fun number b₁ hb₁ _ => ?_
    refine (h.sequence _ _ _ _ hb₁).bind fun yes b₂ hb₂ _ => ?_
    extract_lets rest
    have hrest : ∀ no b₃, Within source b₃ → Ends source b₃ (rest no) fun _ _ => True :=
      fun no b₃ hb₃ => (closeParenthesis_ends start hb₃).bind fun _ b₄ hb₄ _ =>
        Ends.pure hb₄ trivial
    refine (accept_ends _ hb₂).bind fun bar b₃ hb₃ _ => ?_
    refine Ends.ite (fun _ => ?_) fun _ => hrest _ b₃ hb₃
    refine (h.sequence _ _ _ _ hb₃).bind fun no b₄ hb₄ _ => ?_
    refine (peek_ends hb₄).bind fun t? b₅ hb₅ _ => ?_
    exact Ends.ite (fun _ => Ends.failBack) fun _ => hrest _ b₅ hb₅
  next => exact hbody _ b hb id

theorem reads (fuel : Nat) : Reads source fuel := by
  induction fuel with
  | zero =>
      exact ⟨fun _ _ _ hb => Ends.pure hb trivial, fun _ _ _ _ hb => Ends.pure hb trivial,
        fun _ _ _ _ hb => Ends.pure hb trivial⟩
  | succ fuel ih =>
      exact ⟨fun scope branches b hb => ih.alternatives_succ scope branches hb,
        fun scope first items b hb => ih.sequence_succ scope first items hb,
        fun flags start head b hb => ih.group_succ flags start head hb⟩

/-! ## Whole patterns -/

theorem wholePattern_ends (hb : Within source b) :
    Ends source b (wholePattern source) fun _ _ => True := by
  unfold wholePattern
  refine (moveTo_ends hb List.suffix_rfl).bind fun _ b₁ hb₁ _ => ?_
  refine ((reads _).alternatives _ _ _ hb₁).bind fun regex b₂ hb₂ _ => ?_
  refine (Ends.get hb₂).bind fun a b₃ hb₃ h => ?_
  obtain ⟨rfl, rfl⟩ := h
  refine Ends.ite (fun hclash => ?_) fun _ => Ends.ite (fun _ => Ends.failBack) fun _ => ?_
  · simp only [Bool.and_eq_true, List.contains_iff_mem] at hclash
    exact Or.inr (.flags (hb₃.flags _ hclash.1) (hb₃.flags _ hclash.2))
  · extract_lets rest
    have hrest : Ends source b₃ (rest ()) fun _ _ => True := by
      unfold rest
      split
      next => exact Or.inl rfl
      next => exact Ends.pure hb₃ trivial
    split
    next => exact Ends.failAt
    next => exact hrest

/-- **Why patterns fail.** A pattern that cannot be read has a defect, or its text shows that it
exceeds a limit or contradicts itself. -/
theorem compile_eq_error {characters : CharacterNames} {p : String} {fault : Fault}
    (h : Pattern.compile characters p = .error fault) :
    fault.isDefect = true ∨ Exceeds p.toList fault := by
  have hstart : Within p.toList ⟨p.toList, 0, [], [], [some (0, 0)], none, [], characters⟩ :=
    ⟨List.suffix_rfl, List.forall_mem_nil _⟩
  have hends := wholePattern_ends hstart
  unfold Ends at hends
  rw [Pattern.compile, Regex.parse, StateT.run'_eq] at h
  cases hrun : (wholePattern p.toList).run
      ⟨p.toList, 0, [], [], [some (0, 0)], none, [], characters⟩ with
  | ok r =>
      rw [hrun] at h
      cases h
  | error f =>
      rw [hrun] at h hends
      cases h
      exact hends

end Headline.Pattern
