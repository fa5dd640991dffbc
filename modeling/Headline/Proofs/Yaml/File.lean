import Headline.Proofs.Log
import Headline.Proofs.Text.Utf8
import Headline.Yaml.File

/-!
# What is not expected of a file

Of the files that have no value, most are expected: they are not there, or are no YAML. What is
not expected (`Unforeseen`) is of two kinds. A path with the character that ends paths is never
looked for. And a loader may meet something in the bytes that is no matter of YAML.

Nothing is said about what a loader takes for YAML. What can be relied on is how it comes to a
text (`ReadsText`): only the bytes of a text have a value, and it is a fault of the unexpected kind
if not even a first character can be decoded. Both hold of `loadBytes`.
-/

namespace Headline.Yaml

open Text

/-- There are bytes, and they do not begin with those of any character. -/
structure BadStart (bytes : List UInt8) : Prop where
  ne_nil : bytes ≠ []
  no_character : ∀ c, ¬Utf8.encode [c] <+: bytes

theorem BadStart.ne_encode {bytes : List UInt8} (h : BadStart bytes) (cs : List Char) :
    bytes ≠ Utf8.encode cs := by
  rintro rfl
  cases cs with
  | nil => exact h.ne_nil rfl
  | cons c cs =>
      exact h.no_character c ⟨Utf8.encode cs, (Utf8.encode_append [c] cs).symm⟩

/-- The loader decodes the bytes of a file as it goes along, and looks for no value in what it
cannot decode. -/
structure Loader.ReadsText (loader : Loader) : Prop where
  text : ∀ bytes v, loader bytes = .ok v → ∃ cs, bytes = Utf8.encode cs
  start : ∀ bytes, BadStart bytes → ∃ fault, loader bytes = .error fault ∧ fault.isExpected = false

theorem loadBytes_of_fault {bytes : List UInt8} {fault : Utf8.Fault}
    (h : Utf8.decodeStream bytes = .error fault) : loadBytes bytes = .error (.bytes fault) := by
  rw [loadBytes, h]
  rfl

theorem loadBytes_readsText : Loader.ReadsText loadBytes where
  text bytes v hload := by
    cases hdecode : Utf8.decodeStream bytes with
    | ok cs => exact ⟨cs, Utf8.decodeStream_eq_ok_iff.mp hdecode⟩
    | error fault => cases (loadBytes_of_fault hdecode).symm.trans hload
  start bytes hstart := by
    cases hdecode : Utf8.decodeStream bytes with
    | ok cs => exact absurd (Utf8.decodeStream_eq_ok_iff.mp hdecode) (hstart.ne_encode cs)
    | error fault => exact ⟨_, loadBytes_of_fault hdecode, rfl⟩

/-! ## One file -/

variable {loader : Loader} {files : Files} {path : String} {v : Value}

/-- What no reader of a file provides for. -/
inductive Unforeseen (loader : Loader) (files : Files) (path : String) : Prop
  | path (h : files.read path = .error .nulInPath)
  | content {bytes : List UInt8} {fault : LoadFault} (h : files.read path = .ok bytes)
      (hload : loader bytes = .error fault) (hfault : fault.isExpected = false)

/-- The bytes at a path have this value. -/
def Holds (loader : Loader) (files : Files) (path : String) (v : Value) : Prop :=
  ∃ bytes, files.read path = .ok bytes ∧ loader bytes = .ok v

theorem readFile_of_fault {fault : Files.Fault} (h : files.read path = .error fault) :
    readFile loader files path = .error (.files fault) := by
  rw [readFile, h]
  rfl

theorem readFile_of_bytes {bytes : List UInt8} (h : files.read path = .ok bytes) :
    readFile loader files path = (loader bytes).mapError .content := by
  rw [readFile, h]
  rfl

theorem holds_iff : Holds loader files path v ↔ readFile loader files path = .ok v := by
  cases h : files.read path with
  | error fault => simp [Holds, readFile_of_fault h, h]
  | ok bytes =>
      rw [readFile_of_bytes h, mapError_eq_ok_iff]
      simp [Holds, h]

/-- A file is read to a value, fails as expected, or has something that is not provided for. -/
theorem unforeseen_iff :
    Unforeseen loader files path ↔
      ∃ fault, readFile loader files path = .error fault ∧ fault.isExpected = false := by
  constructor
  · intro h
    cases h with
    | path h => exact ⟨_, readFile_of_fault h, rfl⟩
    | @content bytes fault h hload hfault =>
        refine ⟨.content fault, ?_, hfault⟩
        rw [readFile_of_bytes h, hload]
        rfl
  · rintro ⟨fault, hread, hfault⟩
    cases h : files.read path with
    | error f =>
        cases (readFile_of_fault h).symm.trans hread
        cases f with
        | nulInPath => exact .path h
        | _ => cases hfault
    | ok bytes =>
        rw [readFile_of_bytes h] at hread
        cases hload : loader bytes with
        | ok v =>
            rw [hload] at hread
            cases hread
        | error f =>
            rw [hload] at hread
            cases hread
            exact .content h hload hfault

/-- Bytes that are no text give no value, whatever else is wrong with them. -/
theorem readFile_of_not_text (hloader : loader.ReadsText) {bytes : List UInt8}
    (h : files.read path = .ok bytes) (hbytes : ∀ cs, bytes ≠ Utf8.encode cs) :
    ∃ fault, readFile loader files path = .error (.content fault) := by
  rw [readFile_of_bytes h]
  cases hload : loader bytes with
  | error fault => exact ⟨fault, rfl⟩
  | ok v =>
      obtain ⟨cs, hcs⟩ := hloader.text bytes v hload
      exact absurd hcs (hbytes cs)

theorem unforeseen_of_badStart (hloader : loader.ReadsText) {bytes : List UInt8}
    (h : files.read path = .ok bytes) (hstart : BadStart bytes) : Unforeseen loader files path := by
  obtain ⟨fault, hload, hfault⟩ := hloader.start bytes hstart
  exact .content h hload hfault

end Headline.Yaml
