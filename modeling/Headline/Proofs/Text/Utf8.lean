import Headline.Text.Utf8

/-!
# Which bytes are text

Bytes are the text `cs` if they are the encodings of its characters, one after the other
(`encode`). The decoder looks at a character's first byte and then at the bytes that this byte
asks for, and a stream is cut into pieces that may end inside a character. Both are only a matter
of how the decoder works: it gives `cs` exactly for the bytes of `cs` (`decodeStream_eq_ok_iff`),
so the bytes that are no text are those that are not the bytes of any characters.

For one character, `Encodes` says which bytes it has, byte by byte. Of a piece that ends inside a
character it is used that the bytes of a character up to some place, if there are any, are taken
for the start of a character (`Encodes.step_unfinished`).
-/

namespace Headline.Text.Utf8

/-- The bytes of characters. -/
def encode (cs : List Char) : List UInt8 := cs.flatMap String.utf8EncodeChar

theorem encode_cons (c : Char) (cs : List Char) :
    encode (c :: cs) = String.utf8EncodeChar c ++ encode cs := List.flatMap_cons

theorem encode_append (cs ds : List Char) : encode (cs ++ ds) = encode cs ++ encode ds :=
  List.flatMap_append

/-! ## One character -/

/-- The bytes of a character, by the number of them. -/
inductive Encodes (c : Char) : List UInt8 → Prop
  | one {a : UInt8} (hc : c.toNat < 0x80) (ha : a.toNat = c.toNat) : Encodes c [a]
  | two {a b : UInt8} (hc : 0x80 ≤ c.toNat) (hc' : c.toNat < 0x800)
      (ha : a.toNat = 0xC0 + c.toNat / 64) (hb : b.toNat = 0x80 + c.toNat % 64) :
      Encodes c [a, b]
  | three {a b d : UInt8} (hc : 0x800 ≤ c.toNat) (hc' : c.toNat < 0x10000)
      (ha : a.toNat = 0xE0 + c.toNat / 4096) (hb : b.toNat = 0x80 + c.toNat / 64 % 64)
      (hd : d.toNat = 0x80 + c.toNat % 64) : Encodes c [a, b, d]
  | four {a b d e : UInt8} (hc : 0x10000 ≤ c.toNat)
      (ha : a.toNat = 0xF0 + c.toNat / 262144) (hb : b.toNat = 0x80 + c.toNat / 4096 % 64)
      (hd : d.toNat = 0x80 + c.toNat / 64 % 64) (he : e.toNat = 0x80 + c.toNat % 64) :
      Encodes c [a, b, d, e]

/-- No character is half of a surrogate pair or beyond the last one. -/
theorem toNat_range (c : Char) :
    c.toNat < 0x110000 ∧ (c.toNat < 0xD800 ∨ 0xE000 ≤ c.toNat) := by
  have hvalid := c.valid
  rw [UInt32.isValidChar, Nat.isValidChar] at hvalid
  have hnat : c.val.toNat = c.toNat := rfl
  omega

theorem encodes_utf8EncodeChar (c : Char) : Encodes c (String.utf8EncodeChar c) := by
  have hrange := toNat_range c
  have hnat : c.val.toNat = c.toNat := rfl
  rw [String.utf8EncodeChar, hnat]
  split
  next h => exact .one (by omega) (by simp; omega)
  next =>
    split
    next => exact .two (by omega) (by omega) (by simp; omega) (by simp; omega)
    next =>
      split
      next =>
        exact .three (by omega) (by omega) (by simp; omega) (by simp; omega) (by simp; omega)
      next =>
        refine .four (by omega) ?_ ?_ ?_ ?_
        all_goals simp; omega

theorem Encodes.unique {c : Char} {xs ys : List UInt8} (hx : Encodes c xs) (hy : Encodes c ys) :
    xs = ys := by
  have heq : ∀ {a b : UInt8}, a.toNat = b.toNat → a = b := UInt8.toNat_inj.mp
  cases hx <;> cases hy <;> first
    | omega
    | simp only [List.cons.injEq, and_true]
      refine ⟨?_, ?_, ?_, ?_⟩ <;> exact heq (by omega)
    | simp only [List.cons.injEq, and_true]
      refine ⟨?_, ?_, ?_⟩ <;> exact heq (by omega)
    | simp only [List.cons.injEq, and_true]
      refine ⟨?_, ?_⟩ <;> exact heq (by omega)
    | simp only [List.cons.injEq, and_true]
      exact heq (by omega)

theorem encodes_iff {c : Char} {bytes : List UInt8} :
    Encodes c bytes ↔ bytes = String.utf8EncodeChar c :=
  ⟨fun h => h.unique (encodes_utf8EncodeChar c), fun h => h ▸ encodes_utf8EncodeChar c⟩

/-! ## One step of the decoder -/

theorem continues_iff {b : UInt8} : continues b = true ↔ 0x80 ≤ b.toNat ∧ b.toNat < 0xC0 := by
  rw [continues, Bool.and_eq_true, decide_eq_true_eq, decide_eq_true_eq]

/-- The bytes that may follow a first byte. -/
theorem mayFollow_iff {a b : UInt8} :
    mayFollow a b = true ↔ (0x80 ≤ b.toNat ∧ b.toNat < 0xC0)
      ∧ (a.toNat = 0xE0 → 0xA0 ≤ b.toNat) ∧ (a.toNat = 0xED → b.toNat < 0xA0)
      ∧ (a.toNat = 0xF0 → 0x90 ≤ b.toNat) ∧ (a.toNat = 0xF4 → b.toNat < 0x90) := by
  have hnat : ∀ n : UInt8, a = n ↔ a.toNat = n.toNat := fun n => UInt8.toNat_inj.symm
  rw [mayFollow, Bool.and_eq_true, continues_iff]
  simp only [hnat, show (0xE0 : UInt8).toNat = 0xE0 from rfl,
    show (0xED : UInt8).toNat = 0xED from rfl, show (0xF0 : UInt8).toNat = 0xF0 from rfl,
    show (0xF4 : UInt8).toNat = 0xF4 from rfl]
  refine and_congr_right fun _ => ?_
  split
  next => simp; omega
  next =>
    split
    next => simp; omega
    next =>
      split
      next => simp; omega
      next => split <;> simp <;> omega

theorem toNat_ofNat {n : Nat} (h : n.isValidChar) : (Char.ofNat n).toNat = n := by
  rw [Char.ofNat, dif_pos h]
  rfl

theorem char_congr {c : Char} {n size : Nat} (h : n = c.toNat) :
    Step.char (Char.ofNat n) size = .char c size := by
  rw [h, Char.ofNat_toNat]

/-- The bytes of a character are taken as this character, whatever follows. -/
theorem Encodes.step_char {c : Char} {a : UInt8} {bytes : List UInt8} (h : Encodes c (a :: bytes))
    (rest : List UInt8) : step a (bytes ++ rest) = .char c (bytes.length + 1) := by
  have hrange := toNat_range c
  cases h with
  | one hc ha =>
      simp only [step]
      rw [if_pos (by omega)]
      exact char_congr ha
  | two hc hc' ha hb =>
      simp only [step, List.cons_append]
      rw [if_neg (by omega), if_neg (by omega), if_pos (by omega)]
      rw [if_pos (mayFollow_iff.mpr (by omega))]
      exact char_congr (by simp only [low]; omega)
  | three hc hc' ha hb hd =>
      simp only [step]
      rw [if_neg (by omega), if_neg (by omega), if_neg (by omega), if_pos (by omega)]
      simp only [List.cons_append]
      rw [if_pos (mayFollow_iff.mpr (by omega)), if_pos (continues_iff.mpr (by omega))]
      exact char_congr (by simp only [low]; omega)
  | four hc ha hb hd he =>
      simp only [step]
      rw [if_neg (by omega), if_neg (by omega), if_neg (by omega), if_neg (by omega),
        if_pos (by omega)]
      simp only [List.cons_append]
      rw [if_pos (mayFollow_iff.mpr (by omega)), if_pos (continues_iff.mpr (by omega)),
        if_pos (continues_iff.mpr (by omega))]
      exact char_congr (by simp only [low]; omega)

/-- The first bytes of a character are taken for the start of one. -/
theorem Encodes.step_unfinished {c : Char} {a : UInt8} {bytes more : List UInt8}
    (h : Encodes c (a :: (bytes ++ more))) (hmore : more ≠ []) : step a bytes = .unfinished := by
  have hrange := toNat_range c
  generalize hrest : bytes ++ more = rest at h
  have hlength := congrArg List.length hrest
  have hshort : 0 < more.length := List.length_pos_iff.mpr hmore
  rw [List.length_append] at hlength
  cases h with
  | one hc ha =>
      rw [List.length_nil] at hlength
      omega
  | two hc hc' ha hb =>
      simp only [step]
      rw [if_neg (by omega), if_neg (by omega), if_pos (by omega)]
      cases bytes with
      | nil => rfl
      | cons x xs => simp at hlength; omega
  | three hc hc' ha hb hd =>
      simp only [step]
      rw [if_neg (by omega), if_neg (by omega), if_neg (by omega), if_pos (by omega)]
      rcases bytes with _ | ⟨x, _ | ⟨y, ys⟩⟩
      · rfl
      · cases hrest
        simp only
        rw [if_pos (mayFollow_iff.mpr (by omega))]
      · simp at hlength; omega
  | four hc ha hb hd he =>
      simp only [step]
      rw [if_neg (by omega), if_neg (by omega), if_neg (by omega), if_neg (by omega),
        if_pos (by omega)]
      rcases bytes with _ | ⟨x, _ | ⟨y, _ | ⟨z, zs⟩⟩⟩
      · rfl
      · cases hrest
        simp only
        rw [if_pos (mayFollow_iff.mpr (by omega))]
      · cases hrest
        simp only
        rw [if_pos (mayFollow_iff.mpr (by omega)), if_pos (continues_iff.mpr (by omega))]
      · simp at hlength; omega

section Decoded

variable {a b d e : UInt8}

theorem low_eq (b : UInt8) : low b = b.toNat % 64 := rfl

theorem encodes_one (ha : a.toNat < 0x80) : Encodes (Char.ofNat a.toNat) [a] := by
  have hc := toNat_ofNat (show a.toNat.isValidChar by rw [Nat.isValidChar]; omega)
  exact .one (by omega) hc.symm

theorem encodes_two (ha : 0xC2 ≤ a.toNat) (ha' : a.toNat < 0xE0) (hb : mayFollow a b = true) :
    Encodes (Char.ofNat (a.toNat % 32 * 64 + low b)) [a, b] := by
  have hlow := low_eq b
  rw [mayFollow_iff] at hb
  have hc := toNat_ofNat (show (a.toNat % 32 * 64 + low b).isValidChar by
    rw [Nat.isValidChar]; omega)
  exact .two (by omega) (by omega) (by omega) (by omega)

theorem encodes_three (ha : 0xE0 ≤ a.toNat) (ha' : a.toNat < 0xF0) (hb : mayFollow a b = true)
    (hd : continues d = true) :
    Encodes (Char.ofNat ((a.toNat % 16 * 64 + low b) * 64 + low d)) [a, b, d] := by
  have hlow := low_eq b
  have hlow' := low_eq d
  rw [mayFollow_iff] at hb
  rw [continues_iff] at hd
  have hc := toNat_ofNat (show ((a.toNat % 16 * 64 + low b) * 64 + low d).isValidChar by
    rw [Nat.isValidChar]; omega)
  exact .three (by omega) (by omega) (by omega) (by omega) (by omega)

theorem encodes_four (ha : 0xF0 ≤ a.toNat) (ha' : a.toNat < 0xF5) (hb : mayFollow a b = true)
    (hd : continues d = true) (he : continues e = true) :
    Encodes (Char.ofNat (((a.toNat % 8 * 64 + low b) * 64 + low d) * 64 + low e))
      [a, b, d, e] := by
  have hlow := low_eq b
  have hlow' := low_eq d
  have hlow'' := low_eq e
  rw [mayFollow_iff] at hb
  rw [continues_iff] at hd he
  have hc := toNat_ofNat
    (show (((a.toNat % 8 * 64 + low b) * 64 + low d) * 64 + low e).isValidChar by
      rw [Nat.isValidChar]; omega)
  exact .four (by omega) (by omega) (by omega) (by omega) (by omega)

end Decoded

/-- What is taken as a character are its bytes. -/
theorem exists_of_step_char {a : UInt8} {rest : List UInt8} {c : Char} {size : Nat}
    (h : step a rest = .char c size) :
    ∃ bytes, Encodes c bytes ∧ a :: rest = bytes ++ rest.drop (size - 1) := by
  unfold step at h
  dsimp only at h
  split at h
  next hone =>
    cases h
    exact ⟨[a], encodes_one hone, rfl⟩
  split at h
  next => cases h
  split at h
  next htwo =>
    split at h
    next => cases h
    next b tail =>
      split at h
      next hb =>
        cases h
        exact ⟨[a, b], encodes_two (by omega) htwo hb, rfl⟩
      next => cases h
  split at h
  next hthree =>
    split at h
    next => cases h
    split at h
    next b _ hb =>
      split at h
      next => cases h
      split at h
      next d _ hd =>
        cases h
        exact ⟨[a, b, d], encodes_three (by omega) hthree hb hd, rfl⟩
      next => cases h
    next => cases h
  split at h
  next hfour =>
    split at h
    next => cases h
    split at h
    next b _ hb =>
      split at h
      next => cases h
      split at h
      next d _ hd =>
        split at h
        next => cases h
        split at h
        next e _ he =>
          cases h
          exact ⟨[a, b, d, e], encodes_four (by omega) hfour hb hd he, rfl⟩
        next => cases h
      next => cases h
    next => cases h
  next => cases h

/-! ## Pieces -/

/-- What is decoded are the bytes of the characters, and what is kept comes after them. -/
theorem decodeFrom_sound {last : Bool} {place : Nat} {bytes kept : List UInt8} {cs : List Char}
    (h : decodeFrom last place bytes = .ok (cs, kept)) :
    bytes = encode cs ++ kept ∧ (last = true → kept = []) := by
  fun_induction decodeFrom last place bytes generalizing cs kept with
  | case1 =>
      cases h
      exact ⟨rfl, fun _ => rfl⟩
  | case2 place a rest c size hstep cs' kept' hrest ih =>
      cases h
      obtain ⟨hbytes, hkept⟩ := ih hrest
      obtain ⟨front, hfront, hsplit⟩ := exists_of_step_char hstep
      refine ⟨?_, hkept⟩
      rw [hsplit, hbytes, encode_cons, encodes_iff.mp hfront, List.append_assoc]
  | case5 place a rest hstep hlast =>
      cases h
      exact ⟨rfl, fun h => absurd h hlast⟩
  | case6 place a count reason b hfirst hpair hstep =>
      cases h
      refine ⟨rfl, fun hlast => ?_⟩
      rw [hlast] at hfirst
      cases hfirst
  | case3 | case4 | case7 | case8 => cases h

/-- A character at the front is decoded first. -/
theorem decodeFrom_encodeChar (last : Bool) (place : Nat) (c : Char) (bytes : List UInt8) :
    ∃ next, decodeFrom last place (String.utf8EncodeChar c ++ bytes) =
      (decodeFrom last next bytes).map fun r => (c :: r.1, r.2) := by
  have hc := encodes_utf8EncodeChar c
  cases hfront : String.utf8EncodeChar c with
  | nil =>
      rw [hfront] at hc
      cases hc
  | cons a tail =>
      rw [hfront] at hc
      refine ⟨place + (tail.length + 1), ?_⟩
      rw [List.cons_append, decodeFrom, hc.step_char bytes]
      simp only [Nat.add_sub_cancel, List.drop_left]
      cases decodeFrom last (place + (tail.length + 1)) bytes <;> rfl

/-- A piece of the bytes of a text gives the characters that end in it, and keeps the rest. -/
theorem decodeFrom_piece {piece more : List UInt8} {cs : List Char} (place : Nat)
    (h : piece ++ more = encode cs) :
    ∃ cs₁ cs₂ kept, decodeFrom false place piece = .ok (cs₁, kept) ∧ cs = cs₁ ++ cs₂
      ∧ kept ++ more = encode cs₂ := by
  induction cs generalizing piece place with
  | nil =>
      obtain ⟨rfl, hmore⟩ := List.append_eq_nil_iff.mp h
      exact ⟨[], [], [], by rw [decodeFrom], rfl, hmore⟩
  | cons c cs ih =>
      have hwhole : ∀ bytes, piece = String.utf8EncodeChar c ++ bytes →
          bytes ++ more = encode cs →
          ∃ cs₁ cs₂ kept, decodeFrom false place piece = .ok (cs₁, kept) ∧ c :: cs = cs₁ ++ cs₂
            ∧ kept ++ more = encode cs₂ := by
        rintro bytes rfl hbytes
        obtain ⟨next, hnext⟩ := decodeFrom_encodeChar false place c bytes
        obtain ⟨cs₁, cs₂, kept, hdecode, rfl, hkept⟩ := ih next hbytes
        refine ⟨c :: cs₁, cs₂, kept, ?_, rfl, hkept⟩
        rw [hnext, hdecode]
        rfl
      rw [encode_cons] at h
      rcases List.append_eq_append_iff.mp h with ⟨missing, hc, hmore⟩ | ⟨bytes, hpiece, hcs⟩
      · cases missing with
        | nil => exact hwhole [] (by rw [hc, List.append_nil, List.append_nil]) hmore
        | cons x xs =>
            cases piece with
            | nil => exact ⟨[], c :: cs, [], by rw [decodeFrom], rfl, by rw [encode_cons]; exact h⟩
            | cons a tail =>
                have hfront : Encodes c (a :: (tail ++ x :: xs)) := encodes_iff.mpr hc.symm
                have hstep := hfront.step_unfinished (List.cons_ne_nil x xs)
                refine ⟨[], c :: cs, a :: tail, ?_, rfl, by rw [encode_cons]; exact h⟩
                rw [decodeFrom, hstep]
                rfl
      · exact hwhole bytes hpiece hcs.symm

theorem decodeFrom_encode (place : Nat) (cs : List Char) :
    decodeFrom true place (encode cs) = .ok (cs, []) := by
  induction cs generalizing place with
  | nil => rw [encode, List.flatMap_nil, decodeFrom]
  | cons c cs ih =>
      obtain ⟨next, hnext⟩ := decodeFrom_encodeChar true place c (encode cs)
      rw [encode_cons, hnext, ih]
      rfl

theorem decode_eq_ok_iff {bytes : List UInt8} {cs : List Char} :
    decode bytes = .ok cs ↔ bytes = encode cs := by
  rw [decode]
  constructor
  · intro h
    cases hdecode : decodeFrom true 0 bytes with
    | error fault =>
        rw [hdecode] at h
        cases h
    | ok r =>
        rw [hdecode] at h
        cases h
        obtain ⟨hbytes, hkept⟩ := decodeFrom_sound hdecode
        rw [hbytes, hkept rfl, List.append_nil]
  · rintro rfl
    rw [decodeFrom_encode]
    rfl

/-! ## Streams -/

theorem decodePieces_eq_ok_iff {kept : List UInt8} {pieces : List (List UInt8)} {cs : List Char} :
    decodePieces kept pieces = .ok cs ↔ kept ++ pieces.flatten = encode cs := by
  induction pieces generalizing kept cs with
  | nil =>
      rw [List.flatten_nil, List.append_nil]
      exact decode_eq_ok_iff
  | cons piece pieces ih =>
      rw [List.flatten_cons, ← List.append_assoc, decodePieces]
      constructor
      · intro h
        cases hpiece : decodeFrom false 0 (kept ++ piece) with
        | error fault =>
            rw [hpiece] at h
            cases h
        | ok r =>
            obtain ⟨cs₁, kept'⟩ := r
            rw [hpiece] at h
            cases hrest : decodePieces kept' pieces with
            | error fault =>
                simp only [hrest] at h
                cases h
            | ok cs₂ =>
                simp only [hrest] at h
                cases h
                rw [(decodeFrom_sound hpiece).1, List.append_assoc, ih.mp hrest, encode_append]
      · intro h
        obtain ⟨cs₁, cs₂, kept', hpiece, rfl, hkept⟩ := decodeFrom_piece 0 h
        simp only [hpiece, ih.mpr hkept]
        rfl

theorem flatten_cut (size : Nat) (bytes : List UInt8) : (cut size bytes).flatten = bytes := by
  fun_induction cut size bytes with
  | case1 => rfl
  | case2 b bs ih => rw [List.flatten_cons, ih, List.cons_append, List.take_append_drop]

/-- **Bytes and text.** A stream is decoded to a text exactly if it consists of the bytes of its
characters, wherever the pieces end in which it is read. -/
theorem decodeStream_eq_ok_iff {bytes : List UInt8} {cs : List Char} :
    decodeStream bytes = .ok cs ↔ bytes = encode cs := by
  rw [decodeStream, decodePieces_eq_ok_iff, flatten_cut, List.nil_append]

end Headline.Text.Utf8
