import Headline.OptionsFile
import Headline.Proofs.CommandLine
import Headline.Proofs.Value.Display
import Headline.Proofs.Value.Order
import Headline.Proofs.Yaml.File

/-!
# Which files of options are read

Two things decide about a file of options. Its bytes must have a value, and the value must be a
mapping or nothing. Then the keys are sorted and shown, if only for the log. This is where a
mapping may fail that has nothing wrong with it (`Loggable`): keys of different kinds have no
order, and a very long whole number is not shown. Neither is put down to the configuration.

So the fault of a file is no mistake in the configuration in two cases exactly
(`read_breaks_iff`), and in these a run that was to use the file ends without a code. Both hold of
any loader: what the bytes of a file stand for is left to it.
-/

namespace Headline

namespace OptionsFile

/-- The keys of entries are all of one kind, or there are no two of them. -/
def HasOrder (entries : List (Value × Value)) : Prop :=
  entries.length ≤ 1 ∨ ∃ k, ∀ e ∈ entries, e.1.orderKind? = some k

/-- Entries that can be logged by their keys. -/
structure Loggable (entries : List (Value × Value)) : Prop where
  ordered : HasOrder entries
  shown : ∀ e ∈ entries, ¬e.1.Unshown

theorem sorted_keys_ok_iff {entries : List (Value × Value)} :
    (∃ keys, Value.sorted (entries.map (·.1)) = .ok keys) ↔ HasOrder entries := by
  rw [Value.sorted_ok_iff, List.length_map, HasOrder]
  simp only [List.forall_mem_map]

theorem shownKeys_of_unsorted {entries : List (Value × Value)} {fault : Value.OrderFault}
    (h : Value.sorted (entries.map (·.1)) = .error fault) :
    shownKeys entries = .error (.unsortedKeys fault) := by
  rw [shownKeys, h]
  rfl

theorem shownKeys_of_sorted {entries : List (Value × Value)} {keys : List Value}
    (h : Value.sorted (entries.map (·.1)) = .ok keys) :
    shownKeys entries = (Value.list keys).literal.mapError .unshownKeys := by
  rw [shownKeys, h]
  rfl

/-- The list of sorted keys is shown exactly if every key can be. -/
theorem unshown_sorted_iff {entries : List (Value × Value)} {keys : List Value}
    (h : Value.sorted (entries.map (·.1)) = .ok keys) :
    (Value.list keys).Unshown ↔ ∃ e ∈ entries, e.1.Unshown := by
  have hmem : ∀ k, k ∈ keys ↔ ∃ e ∈ entries, e.1 = k := fun k => by
    rw [(Value.sorted_perm h).mem_iff, List.mem_map]
  constructor
  · intro hlist
    cases hlist with
    | part hp hk =>
        obtain ⟨e, he, rfl⟩ := (hmem _).mp hp
        exact ⟨e, he, hk⟩
  · rintro ⟨e, he, hk⟩
    exact .part ((hmem e.1).mpr ⟨e, he, rfl⟩) hk

theorem shownKeys_ok_iff {entries : List (Value × Value)} :
    (∃ text, shownKeys entries = .ok text) ↔ Loggable entries := by
  cases hkeys : Value.sorted (entries.map (·.1)) with
  | error fault =>
      rw [shownKeys_of_unsorted hkeys]
      refine iff_of_false nofun fun h => ?_
      obtain ⟨keys, hok⟩ := sorted_keys_ok_iff.mpr h.ordered
      cases hok.symm.trans hkeys
  | ok keys =>
      have horder : HasOrder entries := sorted_keys_ok_iff.mp ⟨keys, hkeys⟩
      have hshown :
          (∃ text, (Value.list keys).literal = .ok text) ↔ ∀ e ∈ entries, ¬e.1.Unshown := by
        rw [Value.exists_literal_iff, unshown_sorted_iff hkeys]
        simp
      simp only [shownKeys_of_sorted hkeys, mapError_eq_ok_iff]
      rw [hshown]
      exact ⟨fun h => ⟨horder, h⟩, fun h => h.shown⟩

theorem shownKeys_eq_error {entries : List (Value × Value)} {f : OptionsFileFault}
    (h : shownKeys entries = .error f) : f.isConfiguration = false := by
  cases hkeys : Value.sorted (entries.map (·.1)) with
  | error fault =>
      rw [shownKeys_of_unsorted hkeys] at h
      cases h
      rfl
  | ok keys =>
      rw [shownKeys_of_sorted hkeys] at h
      cases hlist : (Value.list keys).literal with
      | ok text =>
          rw [hlist] at h
          cases h
      | error fault =>
          rw [hlist] at h
          cases h
          rfl

/-- What a value comes to as the options of a file. -/
def ofValue (path : String) (v : Value) : Except OptionsFileFault (List (Value × Value)) :=
  match v with
  | .map entries => (shownKeys entries).map fun _ => entries
  | v => entriesOf path v

/-- What a file of options comes to. -/
def result (loader : Yaml.Loader) (files : Files) (path : String) :
    Except OptionsFileFault (List (Value × Value)) :=
  ((Yaml.readFile loader files path).mapError (.unreadable path)).bind (ofValue path)

theorem read_yields (loader : Yaml.Loader) (files : Files) (path : String) :
    (read loader files path).run.Yields (result loader files path) := by
  refine LoggedExcept.yields_bind (LoggedExcept.yields_ofResult _) fun v => ?_
  cases v with
  | null => exact LoggedExcept.yields_pure _
  | map entries =>
      refine LoggedExcept.yields_bind_ok (LoggedExcept.yields_ofResult _) ?_
      rw [ofValue]
      cases hkeys : shownKeys entries with
      | error fault => exact LoggedExcept.yields_bind_error (LoggedExcept.yields_ofResult _)
      | ok keys =>
          refine LoggedExcept.yields_bind_ok (LoggedExcept.yields_ofResult _) ?_
          exact LoggedExcept.yields_bind_ok (LoggedExcept.yields_lift (Logged.yields_write _ _ _))
            (LoggedExcept.yields_pure _)
  | _ => exact LoggedExcept.yields_bind_error (LoggedExcept.yields_ofResult _)

theorem ofValue_ok_iff {path : String} {v : Value} {entries : List (Value × Value)} :
    ofValue path v = .ok entries ↔
      v = .null ∧ entries = [] ∨ v = .map entries ∧ Loggable entries := by
  cases v with
  | null => simp [ofValue, entriesOf, eq_comm]
  | map es =>
      rw [ofValue]
      constructor
      · intro h
        cases hkeys : shownKeys es with
        | error fault =>
            rw [hkeys] at h
            cases h
        | ok keys =>
            rw [hkeys] at h
            cases h
            exact Or.inr ⟨rfl, shownKeys_ok_iff.mp ⟨keys, hkeys⟩⟩
      · rintro (⟨h, -⟩ | ⟨h, hloggable⟩)
        · cases h
        · cases h
          obtain ⟨keys, hkeys⟩ := shownKeys_ok_iff.mpr hloggable
          rw [hkeys]
          rfl
  | _ => simp [ofValue, entriesOf]

theorem ofValue_breaks_iff {path : String} {v : Value} :
    (∃ f, ofValue path v = .error f ∧ f.isConfiguration = false) ↔
      ∃ entries, v = .map entries ∧ ¬Loggable entries := by
  cases v with
  | map es =>
      have hes : (∃ entries, Value.map es = .map entries ∧ ¬Loggable entries) ↔ ¬Loggable es := by
        simp
      rw [hes, ofValue, ← shownKeys_ok_iff]
      cases hkeys : shownKeys es with
      | ok keys => simp [Except.map]
      | error f => simp [Except.map, shownKeys_eq_error hkeys]
  | _ => simp [ofValue, entriesOf, OptionsFileFault.isConfiguration]

section Files

variable {loader : Yaml.Loader} {files : Files} {path : String}

theorem result_ok_iff {entries : List (Value × Value)} :
    result loader files path = .ok entries ↔ Yaml.Holds loader files path .null ∧ entries = []
      ∨ Yaml.Holds loader files path (.map entries) ∧ Loggable entries := by
  rw [Yaml.holds_iff, Yaml.holds_iff, result]
  cases Yaml.readFile loader files path with
  | error fault =>
      show Except.error (OptionsFileFault.unreadable path fault) = .ok entries ↔ _
      simp
  | ok v =>
      show ofValue path v = .ok entries ↔ _
      simp only [Except.ok.injEq]
      exact ofValue_ok_iff

theorem result_breaks_iff :
    (∃ f, result loader files path = .error f ∧ f.isConfiguration = false) ↔
      Yaml.Unforeseen loader files path
        ∨ ∃ entries, Yaml.Holds loader files path (.map entries) ∧ ¬Loggable entries := by
  simp only [Yaml.holds_iff, Yaml.unforeseen_iff, result]
  cases Yaml.readFile loader files path with
  | error fault =>
      show (∃ f, Except.error (OptionsFileFault.unreadable path fault) = .error f ∧ _) ↔ _
      simp [OptionsFileFault.isConfiguration]
  | ok v =>
      show (∃ f, ofValue path v = .error f ∧ _) ↔ _
      rw [ofValue_breaks_iff]
      simp

end Files

/-- **Which files of options break a run.** Whatever loader is installed, a file gives no entries
if it holds nothing, and those of the mapping that it holds if they can be logged by their keys. It
fails other than by a mistake in the configuration exactly if it is not what any reader provides
for, or if it holds a mapping that cannot be logged. A file that is no text gives nothing at all,
and one that does not even begin with a character fails in this way. A run that is to use the file
ends without a code after a fault of that kind, and after any other fault of the file with
code 2. -/
theorem read_breaks_iff (loader : Yaml.Loader) (files : Files) (path : String)
    (log : List Log.Entry) :
    ((∃ f, ((read loader files path).run.run log).1 = .error f ∧ f.isConfiguration = false) ↔
        Yaml.Unforeseen loader files path
          ∨ ∃ entries, Yaml.Holds loader files path (.map entries) ∧ ¬Loggable entries)
      ∧ (∀ entries, ((read loader files path).run.run log).1 = .ok entries ↔
        Yaml.Holds loader files path .null ∧ entries = []
          ∨ Yaml.Holds loader files path (.map entries) ∧ Loggable entries)
      ∧ (loader.ReadsText → ∀ bytes, files.read path = .ok bytes →
        ((∀ cs, bytes ≠ Text.Utf8.encode cs) →
          ∃ f, ((read loader files path).run.run log).1 = .error f)
        ∧ (Yaml.BadStart bytes →
          ∃ f, ((read loader files path).run.run log).1 = .error f ∧ f.isConfiguration = false))
      ∧ ∀ i a settings f, i.loader = loader → CommandLine.optionsFile? a settings = some path →
        ((read loader files path).run.run log).1 = .error f →
        (CommandLine.proceed i a settings files).Yields
          (if f.isConfiguration then .ok 2 else .error (.optionsFile f), "") := by
  have hread : ((read loader files path).run.run log).1 = result loader files path :=
    read_yields loader files path log
  rw [hread]
  refine ⟨result_breaks_iff, fun entries => result_ok_iff, fun hloader bytes hbytes => ?_, ?_⟩
  · refine ⟨fun hnot => ?_, fun hstart => ?_⟩
    · obtain ⟨fault, hfault⟩ := Yaml.readFile_of_not_text hloader hbytes hnot
      refine ⟨.unreadable path (.content fault), ?_⟩
      rw [result, hfault]
      rfl
    · exact result_breaks_iff.mpr (Or.inl (Yaml.unforeseen_of_badStart hloader hbytes hstart))
  · rintro i a settings f rfl hpath hfault
    have hfile : (CommandLine.fileEntries i a settings files).run.Yields (.error f) := by
      rw [CommandLine.fileEntries, hpath, ← hfault]
      exact read_yields i.loader files path
    exact CommandLine.proceed_yields_of_fault (CommandLine.options_yields hfile)

/-- A folder with one file of options, whose two keys are a number and a text. -/
def mixedKeys : Files :=
  .ofTree (.folder [("rule.yaml", .file (Text.Utf8.encode "1: a\nb: c\n".toList))]) []

/-- The number and the texts in a value that is a mapping with two entries of that kind. -/
def parts? : Except Yaml.LoadFault Value → Option (Int × String × String × String)
  | .ok (.map [(.int n, .str a), (.str b, .str c)]) => some (n, a, b, c)
  | _ => none

theorem eq_of_parts? {r : Except Yaml.LoadFault Value} {n : Int} {a b c : String}
    (h : parts? r = some (n, a, b, c)) :
    r = .ok (.map [(.int n, .str a), (.str b, .str c)]) := by
  unfold parts? at h
  split at h
  next =>
      cases h
      rfl
  next => cases h

/-- The mapping has nothing wrong with it, but its keys cannot be sorted for the log. -/
theorem read_breaks_on_mixed_keys :
    Yaml.Holds Yaml.loadBytes mixedKeys "rule.yaml"
        (.map [(.int 1, .str "a"), (.str "b", .str "c")])
      ∧ ((read Yaml.loadBytes mixedKeys "rule.yaml").run.run []).1
        = .error (.unsortedKeys (.unordered (.str "b") (.int 1)))
      ∧ (OptionsFileFault.unsortedKeys (.unordered (.str "b") (.int 1))).isConfiguration
        = false := by
  have hparts : parts? (Yaml.loadBytes (Text.Utf8.encode "1: a\nb: c\n".toList))
      = some (1, "a", "b", "c") := by decide +kernel
  have hholds : Yaml.Holds Yaml.loadBytes mixedKeys "rule.yaml"
      (.map [(.int 1, .str "a"), (.str "b", .str "c")]) := ⟨_, rfl, eq_of_parts? hparts⟩
  refine ⟨hholds, ?_, rfl⟩
  rw [read_yields _ _ _ [], result, Yaml.holds_iff.mp hholds]
  rfl

end OptionsFile

end Headline
