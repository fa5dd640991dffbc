import Headline.Installation
import Headline.Proofs.Log
import Headline.Proofs.Value.Display
import Headline.Proofs.Yaml.File

/-!
# When the default words are available

The file of default words gives words if it holds a mapping with a list of texts, not empty, under
the key of the words (`Gives`). In almost every other case the built-in words are there instead.
There are two exceptions. A file may be there and hold something that no reader provides for, and
what stands under the key may be a value that the warning cannot show (`Loses`). Then there are no
words at all, neither those of the file nor the built-in ones (`words_available_iff`). Words that
were there once stay, whatever becomes of the file.
-/

namespace Headline

namespace WordFile

/-- Under the key of the words, these stand in a list, and there are some. -/
def GivesIn (entries : List (Value × Value)) (ws : List String) : Prop :=
  Value.getStr? entries key = some (.list (ws.map .str)) ∧ ws ≠ []

/-- Under the key of the words stands a value that cannot be shown. -/
def Loses (entries : List (Value × Value)) : Prop :=
  ∃ v, Value.getStr? entries key = some v ∧ v.Unshown

variable {loader : Yaml.Loader} {files : Files} {path : String}

/-- The file holds a mapping that gives these words. -/
def Gives (loader : Yaml.Loader) (files : Files) (path : String) (ws : List String) : Prop :=
  ∃ entries, Yaml.Holds loader files path (.map entries) ∧ GivesIn entries ws

theorem texts?_eq_some_iff {vs : List Value} {ws : List String} :
    Value.texts? vs = some ws ↔ vs = ws.map .str := by
  induction vs generalizing ws with
  | nil => cases ws <;> simp [Value.texts?]
  | cons v vs ih =>
      cases v with
      | str s =>
          rw [Value.texts?]
          cases hvs : Value.texts? vs with
          | none => cases ws <;> simp [← ih, hvs]
          | some us => cases ws <;> simp [← ih, hvs]
      | _ => cases ws <;> simp [Value.texts?]

/-! ## The words of entries -/

/-- The words that stay lower case according to a value. -/
def wordsFor (v : Value) : Except Fault (List String) :=
  if v.isEmptyLike then .ok defaultWords
  else match v with
    | .list vs =>
      match Value.texts? vs with
      | some ws => .ok ws
      | none => (v.literal.mapError .unshown).map fun _ => defaultWords
    | _ => (v.literal.mapError .unshown).map fun _ => defaultWords

/-- The words that stay lower case according to entries. -/
def wordsIn (entries : List (Value × Value)) : Except Fault (List String) :=
  wordsFor ((Value.getStr? entries key).getD .null)

theorem wordsOf_writes (entries : List (Value × Value)) :
    ∃ es, (wordsOf entries).run.Writes (wordsIn entries) es := by
  have hwarn : ∀ v : Value, ∃ es, (do
      let shown ← LoggedExcept.ofResult (v.literal.mapError .unshown)
      Log.write .options .warning
        s!"{key} must be a list of quoted strings, got {shown}; using built-in defaults"
      return defaultWords : LoggedExcept Fault (List String)).run.Writes
        ((v.literal.mapError .unshown).map fun _ => defaultWords) es := by
    intro v
    cases v.literal with
    | error f => exact ⟨_, LoggedExcept.writes_bind_error (LoggedExcept.writes_ofResult _)⟩
    | ok shown =>
        exact ⟨_, LoggedExcept.writes_bind_ok (LoggedExcept.writes_ofResult _)
          (LoggedExcept.writes_bind_ok (LoggedExcept.writes_lift (Logged.writes_append _))
            (LoggedExcept.writes_ofResult _))⟩
  unfold wordsOf wordsIn wordsFor
  generalize (Value.getStr? entries key).getD .null = v
  dsimp only
  cases v.isEmptyLike with
  | true => exact ⟨[], LoggedExcept.writes_ofResult _⟩
  | false =>
      cases v with
      | list vs =>
          dsimp only
          cases Value.texts? vs with
          | none => exact hwarn _
          | some ws => exact ⟨[], LoggedExcept.writes_ofResult _⟩
      | _ => exact hwarn _

theorem wordsFor_list {ws : List String} (hws : ws ≠ []) :
    wordsFor (.list (ws.map .str)) = .ok ws := by
  have hfull : (Value.list (ws.map .str)).isEmptyLike = false := by
    simpa [Value.isEmptyLike] using hws
  rw [wordsFor, hfull]
  simp only [texts?_eq_some_iff.mpr rfl]
  rfl

theorem not_unshown_texts (ws : List String) : ¬(Value.list (ws.map .str)).Unshown := by
  intro h
  cases h with
  | part hp h =>
      obtain ⟨s, -, rfl⟩ := List.mem_map.mp hp
      exact Value.not_unshown_str s h

theorem not_unshown_of_isEmptyLike {v : Value} (h : v.isEmptyLike = true) : ¬v.Unshown := by
  intro hv
  cases hv with
  | @whole n hn =>
      obtain rfl : n = 0 := by simpa [Value.isEmptyLike] using h
      exact absurd hn (by decide +kernel)
  | part hp =>
      cases v <;> simp_all [Value.isEmptyLike, Value.parts]

/-- A value that is no list of texts, or an empty one, stands for the built-in words if it can be
shown. -/
theorem wordsFor_other {v : Value} (h : ∀ ws : List String, v = .list (ws.map .str) → ws = []) :
    (v.Unshown → ∃ fault, wordsFor v = .error fault)
      ∧ (¬v.Unshown → wordsFor v = .ok defaultWords) := by
  have hshown : (v.Unshown → ∃ fault : Fault,
        (v.literal.mapError .unshown).map (fun _ => defaultWords) = .error fault)
      ∧ (¬v.Unshown →
        (v.literal.mapError Fault.unshown).map (fun _ => defaultWords) = .ok defaultWords) := by
    cases hv : v.literal with
    | error f =>
        exact ⟨fun _ => ⟨.unshown f, rfl⟩, fun hnot => absurd (Value.literal_error_iff.mp hv) hnot⟩
    | ok s =>
        refine ⟨fun hunshown => ?_, fun _ => rfl⟩
        cases hv.symm.trans ((@Value.literal_error_iff v .tooManyDigits).mpr hunshown)
  unfold wordsFor
  split
  next hempty =>
    exact ⟨fun hunshown => absurd hunshown (not_unshown_of_isEmptyLike hempty), fun _ => rfl⟩
  next hfull =>
    split
    next vs =>
      split
      next ws hws =>
        have hlist := texts?_eq_some_iff.mp hws
        cases h ws (congrArg Value.list hlist)
        subst hlist
        exact absurd rfl hfull
      next => exact hshown
    next => exact hshown

theorem wordsIn_of_gives {entries : List (Value × Value)} {ws : List String}
    (h : GivesIn entries ws) : wordsIn entries = .ok ws := by
  rw [wordsIn, h.1]
  exact wordsFor_list h.2

theorem wordsIn_of_not_gives {entries : List (Value × Value)} (h : ∀ ws, ¬GivesIn entries ws) :
    (Loses entries → ∃ fault, wordsIn entries = .error fault)
      ∧ (¬Loses entries → wordsIn entries = .ok defaultWords) := by
  unfold wordsIn Loses
  cases hkey : Value.getStr? entries key with
  | none =>
      refine ⟨?_, fun _ => rfl⟩
      rintro ⟨v, hv, -⟩
      cases hv
  | some v =>
      have hother := wordsFor_other (v := v) fun ws hws => Decidable.byContradiction fun hne =>
        h ws ⟨hkey.trans (congrArg some hws), hne⟩
      simpa using hother

theorem not_loses_of_gives {entries : List (Value × Value)} {ws : List String}
    (h : GivesIn entries ws) : ¬Loses entries := by
  rintro ⟨v, hv, hunshown⟩
  rw [h.1] at hv
  cases hv
  exact not_unshown_texts ws hunshown

/-- The words of entries: lost, given, or built in. -/
theorem wordsIn_cases (entries : List (Value × Value)) :
    (Loses entries ∧ ∃ fault, wordsIn entries = .error fault)
      ∨ ¬Loses entries ∧ ∃ ws, wordsIn entries = .ok ws
        ∧ (GivesIn entries ws ∨ ws = defaultWords ∧ ∀ us, ¬GivesIn entries us) := by
  by_cases hgives : ∃ ws, GivesIn entries ws
  · obtain ⟨ws, hws⟩ := hgives
    exact Or.inr ⟨not_loses_of_gives hws, ws, wordsIn_of_gives hws, Or.inl hws⟩
  · have hno : ∀ ws, ¬GivesIn entries ws := fun ws hws => hgives ⟨ws, hws⟩
    by_cases hloses : Loses entries
    · exact Or.inl ⟨hloses, (wordsIn_of_not_gives hno).1 hloses⟩
    · exact Or.inr ⟨hloses, _, (wordsIn_of_not_gives hno).2 hloses, Or.inr ⟨rfl, hno⟩⟩

/-! ## The entries of the file -/

/-- The entries of a value; all but a mapping has none. -/
def entriesFor (v : Value) : List (Value × Value) := (entriesOf? v).getD []

theorem entriesFor_map (entries : List (Value × Value)) : entriesFor (.map entries) = entries := by
  cases entries <;> rfl

theorem entriesFor_other {v : Value} (h : ∀ entries, v ≠ .map entries) : entriesFor v = [] := by
  unfold entriesFor entriesOf?
  split
  next => rfl
  next =>
    split
    next entries _ => exact absurd rfl (h entries)
    next => rfl

/-- What the file has now, or what is wrong with it that is not provided for. -/
def entriesAt (loader : Yaml.Loader) (files : Files) (path : String) :
    Except Fault (List (Value × Value)) :=
  if files.contains path = true then
    match Yaml.readFile loader files path with
    | .ok v => .ok (entriesFor v)
    | .error fault => if fault.isExpected = true then .ok [] else .error (.unreadable path fault)
  else .ok []

theorem readEntries_writes (w : WordFile) (loader : Yaml.Loader) (files : Files) :
    ∃ es, (w.readEntries loader files).run.Writes (entriesAt loader files w.path) es := by
  have hwarn : ∀ message : String, ∃ es, (do
      Log.write .options .warning message
      return [] : LoggedExcept Fault (List (Value × Value))).run.Writes (.ok []) es :=
    fun message => ⟨_, LoggedExcept.writes_bind_ok
      (LoggedExcept.writes_lift (Logged.writes_append _)) (LoggedExcept.writes_ofResult _)⟩
  unfold readEntries entriesAt
  cases files.contains w.path with
  | false => exact hwarn _
  | true =>
      cases Yaml.readFile loader files w.path with
      | ok v =>
          unfold entriesFor
          dsimp only
          cases entriesOf? v with
          | none => exact hwarn _
          | some entries => exact ⟨[], LoggedExcept.writes_ofResult _⟩
      | error fault =>
          cases hfault : fault.isExpected with
          | true => simp only [hfault]; exact hwarn _
          | false => simp only [hfault]; exact ⟨[], LoggedExcept.writes_ofResult _⟩

theorem contains_of_read {bytes : List UInt8} (h : files.read path = .ok bytes) :
    files.contains path = true := by
  rw [Files.read] at h
  rw [Files.contains]
  cases hfind : files.find path with
  | ok tree => rfl
  | error fault =>
      rw [hfind] at h
      cases h

theorem entriesAt_eq_error_iff :
    (∃ fault, entriesAt loader files path = .error fault) ↔
      files.contains path = true ∧ Yaml.Unforeseen loader files path := by
  rw [Yaml.unforeseen_iff, entriesAt]
  cases files.contains path with
  | false => simp
  | true =>
      cases Yaml.readFile loader files path with
      | ok v => simp
      | error fault => cases hfault : fault.isExpected <;> simp [hfault]

/-- The entries that are read are those of the mapping that the file holds, and none if it holds
no mapping. -/
theorem entriesAt_eq_ok {entries : List (Value × Value)}
    (h : entriesAt loader files path = .ok entries) :
    Yaml.Holds loader files path (.map entries)
      ∨ entries = [] ∧ ∀ es, ¬Yaml.Holds loader files path (.map es) := by
  simp only [Yaml.holds_iff]
  rw [entriesAt] at h
  split at h
  next =>
    cases hread : Yaml.readFile loader files path with
    | ok v =>
        rw [hread] at h
        cases h
        by_cases hmap : ∃ es, v = .map es
        · obtain ⟨es, rfl⟩ := hmap
          rw [entriesFor_map]
          exact Or.inl rfl
        · have hother : ∀ es, v ≠ .map es := not_exists.mp hmap
          exact Or.inr ⟨entriesFor_other hother, fun es hv => hother es (Except.ok.inj hv)⟩
    | error fault =>
        rw [hread] at h
        dsimp only at h
        split at h
        next =>
          cases h
          exact Or.inr ⟨rfl, fun _ => nofun⟩
        next => cases h
  next hgone =>
    cases h
    refine Or.inr ⟨rfl, fun es hread => ?_⟩
    obtain ⟨bytes, hbytes, -⟩ := Yaml.holds_iff.mpr hread
    exact hgone (contains_of_read hbytes)

/-- What holds of the mapping in the file, and not of an empty one, holds of the entries. -/
theorem holds_map_iff {entries : List (Value × Value)} {P : List (Value × Value) → Prop}
    (h : entriesAt loader files path = .ok entries) (hnil : ¬P []) :
    (∃ es, Yaml.Holds loader files path (.map es) ∧ P es) ↔ P entries := by
  rcases entriesAt_eq_ok h with hholds | ⟨rfl, hno⟩
  · refine ⟨?_, fun hP => ⟨entries, hholds, hP⟩⟩
    rintro ⟨es, hes, hP⟩
    cases (Yaml.holds_iff.mp hes).symm.trans (Yaml.holds_iff.mp hholds)
    exact hP
  · refine iff_of_false ?_ hnil
    rintro ⟨es, hes, -⟩
    exact hno es hes

theorem gives_iff {entries : List (Value × Value)}
    (h : entriesAt loader files path = .ok entries) (ws : List String) :
    Gives loader files path ws ↔ GivesIn entries ws :=
  holds_map_iff h fun hnil => nomatch hnil.1

theorem loses_iff {entries : List (Value × Value)}
    (h : entriesAt loader files path = .ok entries) :
    (∃ es, Yaml.Holds loader files path (.map es) ∧ Loses es) ↔ Loses entries :=
  holds_map_iff h fun ⟨_, hnil, _⟩ => nomatch hnil

/-! ## The words of the file -/

/-- What asking for the words comes to, and the file as it is remembered. -/
def wordsAt (w : WordFile) (loader : Yaml.Loader) (files : Files) :
    Except Fault (List String) × WordFile :=
  match (w.entries?.map Except.ok).getD (entriesAt loader files w.path) with
  | .error fault => (.error fault, w)
  | .ok entries => (wordsIn entries, { w with entries? := some entries })

/-- A file that has not been read is read now. -/
theorem wordsAt_ofFolder (folder : String) (loader : Yaml.Loader) (files : Files) :
    (ofFolder folder).wordsAt loader files =
      match entriesAt loader files (ofFolder folder).path with
      | .error fault => (.error fault, ofFolder folder)
      | .ok entries => (wordsIn entries, ⟨folder, some entries⟩) := rfl

theorem exists_words_writes (w : WordFile) (loader : Yaml.Loader) (files : Files) :
    ∃ es, (w.words loader files).Writes (w.wordsAt loader files) es := by
  have hrest : ∀ entries, ∃ es, (do
      return (← (wordsOf entries).run, { w with entries? := some entries }) :
        Logged (Except Fault (List String) × WordFile)).Writes
      (wordsIn entries, { w with entries? := some entries }) es := fun entries =>
    let ⟨_, hes⟩ := wordsOf_writes entries
    ⟨_, hes.bind (Logged.writes_pure _)⟩
  unfold words wordsAt
  cases w.entries? with
  | some entries =>
      obtain ⟨es, hes⟩ := hrest entries
      exact ⟨_, (Logged.writes_pure _).bind hes⟩
  | none =>
      obtain ⟨rs, hread⟩ := readEntries_writes w loader files
      simp only [Option.map_none, Option.getD_none]
      cases hentries : entriesAt loader files w.path with
      | error fault =>
          rw [hentries] at hread
          exact ⟨_, hread.bind (Logged.writes_pure _)⟩
      | ok entries =>
          rw [hentries] at hread
          obtain ⟨es, hes⟩ := hrest entries
          exact ⟨_, hread.bind hes⟩

/-- The answer that is kept is the one that was given, with what was logged. -/
theorem words_writes (w : WordFile) (loader : Yaml.Loader) (files : Files) :
    (w.words loader files).Writes (w.wordsAt loader files) (w.asked loader files).log := by
  obtain ⟨es, hes⟩ := exists_words_writes w loader files
  have hlog : (w.asked loader files).log = es := by
    show ((w.words loader files).run []).2 = es
    rw [hes []]
    rfl
  rwa [hlog]

theorem asked_result (w : WordFile) (loader : Yaml.Loader) (files : Files) :
    (w.asked loader files).result = (w.wordsAt loader files).1 := by
  show ((w.words loader files).run []).1.1 = _
  rw [words_writes w loader files []]

/-- The ways in which there are no words. -/
theorem exists_wordsAt_error_iff {folder : String} :
    (∃ fault, ((ofFolder folder).wordsAt loader files).1 = .error fault) ↔
      files.contains (ofFolder folder).path = true
          ∧ Yaml.Unforeseen loader files (ofFolder folder).path
        ∨ ∃ entries, Yaml.Holds loader files (ofFolder folder).path (.map entries)
          ∧ Loses entries := by
  rw [← entriesAt_eq_error_iff, wordsAt_ofFolder]
  cases hentries : entriesAt loader files (ofFolder folder).path with
  | error fault => simp
  | ok entries =>
      rw [loses_iff hentries]
      rcases wordsIn_cases entries with ⟨hloses, hfault⟩ | ⟨hloses, ws, hws, -⟩
      · simp [hloses, hfault]
      · simp [hloses, hws]

/-- Words come from the entries of the file, which are remembered. -/
theorem wordsAt_eq_ok {folder : String} {ws : List String} {w : WordFile}
    (h : (ofFolder folder).wordsAt loader files = (.ok ws, w)) :
    ∃ entries, entriesAt loader files (ofFolder folder).path = .ok entries
      ∧ wordsIn entries = .ok ws ∧ w = ⟨folder, some entries⟩ := by
  rw [wordsAt_ofFolder] at h
  cases hentries : entriesAt loader files (ofFolder folder).path with
  | error fault =>
      rw [hentries] at h
      cases h
  | ok entries =>
      rw [hentries] at h
      obtain ⟨hws, rfl⟩ := Prod.mk.inj h
      exact ⟨entries, rfl, hws, rfl⟩

/-- Entries that are remembered give the same words with any files. -/
theorem words_yields_of_entries {folder : String} {entries : List (Value × Value)}
    {ws : List String} (h : wordsIn entries = .ok ws) (files : Files) :
    ((⟨folder, some entries⟩ : WordFile).words loader files).Yields
      (.ok ws, ⟨folder, some entries⟩) := by
  have hkept := (words_writes ⟨folder, some entries⟩ loader files).yields
  rw [wordsAt] at hkept
  rw [← h]
  exact hkept

/-- **When the default words are available.** There are no words exactly if the file is there and
holds something that no reader provides for, or if it holds a mapping with a value under the key
of the words that cannot be shown. Otherwise there are words: those of the file if it gives any,
and the built-in ones if it does not; and they stay the same whatever becomes of the file. A file
that is no text never gives words, and if it does not even begin with a character, there are none.
Options are built on this answer, whatever is in the log. -/
theorem words_available_iff (loader : Yaml.Loader) (folder : String) (files : Files)
    (log : List Log.Entry) :
    ((∃ fault, (((ofFolder folder).words loader files).run log).1.1 = .error fault) ↔
        files.contains (ofFolder folder).path = true
            ∧ Yaml.Unforeseen loader files (ofFolder folder).path
          ∨ ∃ entries, Yaml.Holds loader files (ofFolder folder).path (.map entries)
            ∧ Loses entries)
      ∧ (∀ ws w, (((ofFolder folder).words loader files).run log).1 = (.ok ws, w) →
        ws ≠ []
          ∧ (Gives loader files (ofFolder folder).path ws
            ∨ ws = defaultWords ∧ ∀ us, ¬Gives loader files (ofFolder folder).path us)
          ∧ ∀ files', (w.words loader files').Yields (.ok ws, w))
      ∧ (loader.ReadsText → ∀ bytes, files.read (ofFolder folder).path = .ok bytes →
        ((∀ cs, bytes ≠ Text.Utf8.encode cs) →
          ∀ ws, ¬Gives loader files (ofFolder folder).path ws)
        ∧ (Yaml.BadStart bytes →
          ∃ fault, (((ofFolder folder).words loader files).run log).1.1 = .error fault))
      ∧ ∀ i : Installation, i.loader = loader → i.wordFile = ofFolder folder →
        (i.basis files).defaults.result
          = (((ofFolder folder).words loader files).run log).1.1 := by
  have hwords : (((ofFolder folder).words loader files).run log).1
      = (ofFolder folder).wordsAt loader files := (words_writes _ loader files).yields log
  rw [hwords]
  refine ⟨exists_wordsAt_error_iff, ?_, ?_, ?_⟩
  · intro ws w h
    obtain ⟨entries, hentries, hws, rfl⟩ := wordsAt_eq_ok h
    simp only [gives_iff hentries]
    rcases wordsIn_cases entries with ⟨-, fault, hfault⟩ | ⟨-, us, hus, hcases⟩
    · cases hfault.symm.trans hws
    · cases hus.symm.trans hws
      refine ⟨?_, hcases, words_yields_of_entries hws⟩
      rcases hcases with hgives | ⟨hdefault, -⟩
      · exact hgives.2
      · rw [hdefault]
        exact List.cons_ne_nil _ _
  · refine fun hloader bytes hread => ⟨?_, fun hstart => ?_⟩
    · rintro hbytes ws ⟨entries, hholds, -⟩
      obtain ⟨fault, hfault⟩ := Yaml.readFile_of_not_text hloader hread hbytes
      cases hfault.symm.trans (Yaml.holds_iff.mp hholds)
    · have hunforeseen := Yaml.unforeseen_of_badStart hloader hread hstart
      exact exists_wordsAt_error_iff.mpr (Or.inl ⟨contains_of_read hread, hunforeseen⟩)
  · rintro i rfl hfile
    rw [← asked_result, ← hfile]
    rfl

/-- A folder whose file of default words is one byte that starts no character. -/
def oneByte : Files := .ofTree (.folder [("heading_capitalization.yaml", .file [0xFF])]) []

/-- The bytes are no text, and so there are not even the built-in words. -/
theorem no_words_of_one_byte :
    (∀ ws, ¬Gives Yaml.loadBytes oneByte (ofFolder ".").path ws)
      ∧ (((ofFolder ".").words Yaml.loadBytes oneByte).run []).1.1
        = .error (.unreadable "./heading_capitalization.yaml"
          (.content (.bytes ⟨0, 1, 0xFF, .invalidStart⟩))) := by
  have hread : oneByte.read (ofFolder ".").path = .ok [0xFF] := rfl
  have hdecode : Text.Utf8.decodeStream [0xFF] = .error ⟨0, 1, 0xFF, .invalidStart⟩ := by
    simp [Text.Utf8.decodeStream, Text.Utf8.cut, Text.Utf8.decodePieces, Text.Utf8.decodeFrom,
      Text.Utf8.step]
  have hfile : Yaml.readFile Yaml.loadBytes oneByte (ofFolder ".").path
      = .error (.content (.bytes ⟨0, 1, 0xFF, .invalidStart⟩)) := by
    rw [Yaml.readFile_of_bytes hread, Yaml.loadBytes_of_fault hdecode]
    rfl
  refine ⟨?_, ?_⟩
  · rintro ws ⟨entries, hholds, -⟩
    rw [Yaml.holds_iff, hfile] at hholds
    cases hholds
  · rw [words_writes (ofFolder ".") Yaml.loadBytes oneByte [], wordsAt_ofFolder, entriesAt, hfile,
      contains_of_read hread]
    rfl

end WordFile

end Headline
