import Headline.Text.Quoted

/-!
# UTF-8

Decoding of bytes, with the place and the cause of the first fault. A file may be
decoded at once or in pieces. In pieces, an unfinished character at the end of a
piece is kept for the next one, and places are counted from where the piece, with
what was kept for it, begins.
-/

namespace Headline.Text.Utf8

/-- What is wrong with a run of bytes. -/
inductive Reason where
  /-- no character starts with this byte -/
  | invalidStart
  /-- the character breaks off at a byte that does not continue it -/
  | invalidContinuation
  /-- the bytes end inside a character -/
  | unexpectedEnd
deriving Repr, DecidableEq

/-- A fault: the place of its first byte, how many bytes it spans, the first byte and
the reason. -/
structure Fault where
  start : Nat
  count : Nat
  byte : UInt8
  reason : Reason
deriving Repr, DecidableEq

def Reason.message : Reason → String
  | invalidStart => "invalid start byte"
  | invalidContinuation => "invalid continuation byte"
  | unexpectedEnd => "unexpected end of data"

/-- The wording of a fault: the first byte if it spans one, or else the places of the first and
the last. -/
def Fault.message (f : Fault) : String :=
  let bytes :=
    if f.count = 1 then s!"byte 0x{String.ofList (hexDigits 2 f.byte.toNat)} in position {f.start}"
    else s!"bytes in position {f.start}-{f.start + f.count - 1}"
  s!"'utf-8' codec can't decode {bytes}: {f.reason.message}"

/-- What one look at the front of the bytes finds. -/
inductive Step where
  /-- a character, and the bytes after it -/
  | char (c : Char) (size : Nat)
  /-- the start of a character that needs more bytes -/
  | unfinished
  /-- a fault that spans `count` bytes -/
  | fault (count : Nat) (reason : Reason)

def continues (b : UInt8) : Bool := 0x80 ≤ b.toNat && b.toNat < 0xC0

/-- Whether `b` may follow the first byte `a`: no overlong form, no surrogate, nothing
above U+10FFFF. -/
def mayFollow (a b : UInt8) : Bool :=
  continues b &&
  (if a = 0xE0 then 0xA0 ≤ b.toNat
   else if a = 0xED then b.toNat < 0xA0
   else if a = 0xF0 then 0x90 ≤ b.toNat
   else if a = 0xF4 then b.toNat < 0x90
   else true)

/-- The low six bits of a continuation byte. -/
def low (b : UInt8) : Nat := b.toNat % 64

/-- The character at the front of the bytes. -/
def step (a : UInt8) (rest : List UInt8) : Step :=
  let n := a.toNat
  if n < 0x80 then .char (Char.ofNat n) 1
  else if n < 0xC2 then .fault 1 .invalidStart
  else if n < 0xE0 then
    match rest with
    | [] => .unfinished
    | b :: _ =>
      if mayFollow a b then .char (Char.ofNat (n % 32 * 64 + low b)) 2
      else .fault 1 .invalidContinuation
  else if n < 0xF0 then
    match rest with
    | [] => .unfinished
    | b :: rest =>
      if mayFollow a b then
        match rest with
        | [] => .unfinished
        | c :: _ =>
          if continues c then .char (Char.ofNat ((n % 16 * 64 + low b) * 64 + low c)) 3
          else .fault 2 .invalidContinuation
      else .fault 1 .invalidContinuation
  else if n < 0xF5 then
    match rest with
    | [] => .unfinished
    | b :: rest =>
      if mayFollow a b then
        match rest with
        | [] => .unfinished
        | c :: rest =>
          if continues c then
            match rest with
            | [] => .unfinished
            | d :: _ =>
              if continues d then
                .char (Char.ofNat (((n % 8 * 64 + low b) * 64 + low c) * 64 + low d)) 4
              else .fault 3 .invalidContinuation
          else .fault 2 .invalidContinuation
      else .fault 1 .invalidContinuation
  else .fault 1 .invalidStart

/-- Decode bytes that start at place `place`. In the last piece an unfinished character
is a fault; in an earlier one it is given back with the characters before it, as are
the two bytes of half a surrogate pair. -/
def decodeFrom (last : Bool) (place : Nat) (bytes : List UInt8) :
    Except Fault (List Char × List UInt8) :=
  match bytes with
  | [] => .ok ([], [])
  | a :: rest =>
    match step a rest with
    | .char c size =>
      match decodeFrom last (place + size) (rest.drop (size - 1)) with
      | .ok (cs, kept) => .ok (c :: cs, kept)
      | .error e => .error e
    | .unfinished =>
      if last then .error ⟨place, rest.length + 1, a, .unexpectedEnd⟩ else .ok ([], a :: rest)
    | .fault count reason =>
      match !last && a = 0xED, rest with
      | true, [b] =>
        if 0xA0 ≤ b.toNat && b.toNat < 0xC0 then .ok ([], [a, b])
        else .error ⟨place, count, a, reason⟩
      | _, _ => .error ⟨place, count, a, reason⟩
termination_by bytes.length
decreasing_by simp only [List.length_cons, List.length_drop]; omega

def decode (bytes : List UInt8) : Except Fault (List Char) :=
  (decodeFrom true 0 bytes).map (·.1)

/-- Decode bytes piece by piece, the end being a last, empty piece. -/
def decodePieces (kept : List UInt8) : List (List UInt8) → Except Fault (List Char)
  | [] => (decodeFrom true 0 kept).map (·.1)
  | piece :: pieces =>
    match decodeFrom false 0 (kept ++ piece) with
    | .error e => .error e
    | .ok (cs, kept) => (decodePieces kept pieces).map (cs ++ ·)

/-- The bytes in pieces of `size + 1`. -/
def cut (size : Nat) : List UInt8 → List (List UInt8)
  | [] => []
  | b :: bs => (b :: bs.take size) :: cut size (bs.drop size)
termination_by bs => bs.length
decreasing_by simp only [List.length_cons, List.length_drop]; omega

/-- Decode bytes that are read in pieces of 8192. -/
def decodeStream (bytes : List UInt8) : Except Fault (List Char) :=
  decodePieces [] (cut 8191 bytes)

end Headline.Text.Utf8
