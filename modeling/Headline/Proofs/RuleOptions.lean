import Headline.Proofs.Log
import Headline.Proofs.Value.Display
import Headline.RuleOptions

/-!
# What the check of options comes to

Options are checked with warnings on the way. Without these, what is left is a function of the
values and of what options are built on: the entries are taken out of the mapping, their keys are
looked at, and the options are taken out of the entries.

Of the entries, only the last value of each option counts (`given_eq_some_iff`), and the options
are checked one by one: checked options take, option by option, what these values stand for
(`resultOf_eq_ok_iff`).
-/

namespace Headline

/-- Characters have no names, and the default words are the built-in ones. -/
def Basis.plain : Basis := ⟨fun _ => none, ⟨.ok Headline.defaultWords, []⟩⟩

namespace RuleOptions

/-- What the warnings of entries come to: the fault of the first key that stands for no option and
cannot be shown, if there is one. -/
def checkKeys : List (Value × Value) → Except OptionFault Unit
  | [] => .ok ()
  | (key, _) :: rest =>
    if (Name.ofKey? key).isNone then (key.text.mapError .unshown).bind fun _ => checkKeys rest
    else checkKeys rest

/-- What entries give once their keys have been looked at. -/
def resultOf (basis : Basis) (entries : List (Value × Value)) : Except OptionFault RuleOptions := do
  let words ← checkWords (given entries .words)
  let allowFirst ← checkFlag (given entries .allowFirst)
  let defaults ← basis.defaults.result.mapError .noDefaultWords
  let patterns ← checkPatterns basis.characters ((given entries .patterns).getD .null)
  return ⟨WordSet.ofWords defaults words, allowFirst, patterns⟩

/-- The options that values give, or what is wrong with them. -/
def ofValue (basis : Basis) (raw : Value) : Except OptionFault RuleOptions :=
  (entriesOf raw).bind fun entries => (checkKeys entries).bind fun _ => resultOf basis entries

theorem warnUnknown_yields : ∀ entries : List (Value × Value),
    (warnUnknown entries).run.Yields (checkKeys entries)
  | [] => LoggedExcept.yields_pure ()
  | (key, _) :: rest => by
      rw [warnUnknown, checkKeys]
      cases (Name.ofKey? key).isNone with
      | false =>
          exact LoggedExcept.yields_bind_ok (LoggedExcept.yields_pure _) (warnUnknown_yields rest)
      | true =>
          cases key.text with
          | error f =>
              exact LoggedExcept.yields_bind_error (LoggedExcept.yields_ofResult _)
          | ok shown =>
              exact LoggedExcept.yields_bind_ok (LoggedExcept.yields_ofResult _)
                (LoggedExcept.yields_bind_ok (LoggedExcept.yields_lift (Logged.yields_write _ _ _))
                  (warnUnknown_yields rest))

/-- What entries come to, and what is written on the way, does not depend on the log. -/
theorem ofEntries_writes (basis : Basis) (entries : List (Value × Value)) :
    ∃ es, (ofEntries basis entries).run.Writes (resultOf basis entries) es := by
  have hresult : ∀ {α : Type} (r : Except OptionFault α),
      ∃ es, (LoggedExcept.ofResult r).run.Writes r es :=
    fun r => ⟨[], LoggedExcept.writes_ofResult r⟩
  have hdefaults : ∃ es, basis.defaultWords.run.Writes
      (basis.defaults.result.mapError .noDefaultWords) es :=
    ⟨_, LoggedExcept.writes_bind_ok (LoggedExcept.writes_lift (Logged.writes_append _))
      (LoggedExcept.writes_ofResult _)⟩
  unfold ofEntries resultOf
  refine LoggedExcept.exists_writes_bind (hresult _) fun ws => ?_
  refine LoggedExcept.exists_writes_bind (hresult _) fun b => ?_
  refine LoggedExcept.exists_writes_bind hdefaults fun ds => ?_
  refine LoggedExcept.exists_writes_bind (hresult _) fun ps => ?_
  exact hresult (Except.ok _)

theorem build_yields (basis : Basis) (raw : Value) :
    (build basis raw).run.Yields (ofValue basis raw) := by
  refine LoggedExcept.yields_bind (LoggedExcept.yields_ofResult (entriesOf raw)) fun entries => ?_
  refine LoggedExcept.yields_bind (warnUnknown_yields entries) fun _ => ?_
  obtain ⟨es, hes⟩ := ofEntries_writes basis entries
  exact hes.yields

/-! ## Names and spellings -/

/-- The spelling of an option that command lines use. -/
def Name.key : Name → String
  | words => "lowerCaseWords"
  | allowFirst => "allowFirstWordLowerCase"
  | patterns => "ignorePattern"

/-- The other spelling of an option. -/
def Name.otherKey : Name → String
  | words => "lower_case_words"
  | allowFirst => "allow_first_word_lower_case"
  | patterns => "ignore_pattern"

/-- The key is one of the two spellings of the option. -/
def Name.Spelled (n : Name) (k : Value) : Prop := k = .str n.key ∨ k = .str n.otherKey

/-- An option has two spellings and no third. -/
theorem Name.ofKey?_eq_some_iff {k : Value} {n : Name} :
    Name.ofKey? k = some n ↔ k = .str n.key ∨ k = .str n.otherKey := by
  constructor
  · intro h
    cases k with
    | str s =>
        rw [Name.ofKey?] at h
        obtain ⟨before, after, hsplit, -⟩ := List.lookup_eq_some_iff.mp h
        have hmem : (s, n) ∈ before ++ (s, n) :: after :=
          List.mem_append_right _ (List.mem_cons_self ..)
        rw [← hsplit] at hmem
        simp only [List.mem_cons, Prod.mk.injEq, List.not_mem_nil, or_false] at hmem
        rcases hmem with ⟨rfl, rfl⟩ | ⟨rfl, rfl⟩ | ⟨rfl, rfl⟩ | ⟨rfl, rfl⟩ | ⟨rfl, rfl⟩
          | ⟨rfl, rfl⟩ <;> simp [Name.key, Name.otherKey]
    | _ => cases h
  · rintro (rfl | rfl) <;> cases n <;> rfl

theorem Name.ofKey?_key (n : Name) : Name.ofKey? (.str n.key) = some n :=
  Name.ofKey?_eq_some_iff.mpr (Or.inl rfl)

theorem Name.ofKey?_eq_none_iff {k : Value} : Name.ofKey? k = none ↔ ∀ n : Name, ¬n.Spelled k := by
  rw [Option.eq_none_iff_forall_ne_some]
  exact forall_congr' fun n => not_congr Name.ofKey?_eq_some_iff

/-- A key that stands for no option and cannot be shown in the warning. -/
def Mute (k : Value) : Prop := (∀ n : Name, ¬n.Spelled k) ∧ k.Unshown

/-- The keys are no obstacle exactly if each that calls forth a warning can be shown in it. -/
theorem checkKeys_eq_ok_iff {entries : List (Value × Value)} {u : Unit} :
    checkKeys entries = .ok u ↔ ∀ e ∈ entries, ¬Mute e.1 := by
  induction entries with
  | nil => simp [checkKeys]
  | cons e entries ih =>
      rw [checkKeys, List.forall_mem_cons, ← ih, Mute, ← Name.ofKey?_eq_none_iff]
      cases Name.ofKey? e.1 with
      | some n => simp
      | none =>
          cases hshown : e.1.text with
          | ok s =>
              have hnot : ¬e.1.Unshown := Value.exists_text_iff.mp ⟨s, hshown⟩
              simp [hnot, Except.bind]
          | error fault =>
              have hunshown : e.1.Unshown := Value.text_error_iff.mp hshown
              simp [hunshown, Except.bind]

/-! ## The last value of an option -/

@[simp] theorem given_nil (n : Name) : given [] n = none := rfl

/-- What stands further behind wins. -/
theorem given_append (as bs : List (Value × Value)) (n : Name) :
    given (as ++ bs) n = (given bs n).or (given as n) := by
  rw [given, List.reverse_append, List.find?_append, Option.map_or]
  rfl

theorem given_singleton (e : Value × Value) (n : Name) :
    given [e] n = if Name.ofKey? e.1 = some n then some e.2 else none := by
  rw [given, List.reverse_singleton, List.find?_singleton]
  by_cases h : Name.ofKey? e.1 = some n <;> simp [h]

theorem given_cons (e : Value × Value) (es : List (Value × Value)) (n : Name) :
    given (e :: es) n =
      (given es n).or (if Name.ofKey? e.1 = some n then some e.2 else none) := by
  rw [← List.singleton_append, given_append, given_singleton]

theorem given_eq_none_iff {entries : List (Value × Value)} {n : Name} :
    given entries n = none ↔ ∀ e ∈ entries, Name.ofKey? e.1 ≠ some n := by
  simp [given]

theorem given_isSome_iff {entries : List (Value × Value)} {n : Name} :
    (given entries n).isSome = true ↔ ∃ e ∈ entries, Name.ofKey? e.1 = some n := by
  simp [given]

/-- The value of an option is that of the last entry under one of its spellings. -/
theorem given_eq_some_iff {entries : List (Value × Value)} {n : Name} {v : Value} :
    given entries n = some v ↔ ∃ before key after, entries = before ++ (key, v) :: after
      ∧ Name.ofKey? key = some n ∧ ∀ e ∈ after, Name.ofKey? e.1 ≠ some n := by
  constructor
  · intro h
    induction entries with
    | nil => cases h
    | cons e es ih =>
        rw [given_cons] at h
        cases hes : given es n with
        | some u =>
            rw [hes, Option.some_or] at h
            obtain ⟨before, key, after, rfl, hkey, hafter⟩ := ih (hes.trans h)
            exact ⟨e :: before, key, after, rfl, hkey, hafter⟩
        | none =>
            rw [hes, Option.none_or] at h
            split at h
            next hkey =>
              cases h
              exact ⟨[], e.1, es, rfl, hkey, given_eq_none_iff.mp hes⟩
            next => cases h
  · rintro ⟨before, key, after, rfl, hkey, hafter⟩
    rw [given_append, given_cons, given_eq_none_iff.mpr hafter, if_pos hkey]
    rfl

/-! ## Options one by one -/

/-- Checked options take, for one of them, what a value stands for that may be there. -/
def Takes (o : RuleOptions) (basis : Basis) (v? : Option Value) : Name → Prop
  | .words => ∃ ds ws, basis.defaults.result = .ok ds ∧ checkWords v? = .ok ws
      ∧ o.words = .ofWords ds ws
  | .allowFirst => checkFlag v? = .ok o.allowFirst
  | .patterns => checkPatterns basis.characters (v?.getD .null) = .ok o.patterns

variable {basis : Basis}

/-- Entries give options exactly if these take the last value of each option. -/
theorem resultOf_eq_ok_iff {entries : List (Value × Value)} {o : RuleOptions} :
    resultOf basis entries = .ok o ↔ ∀ n, o.Takes basis (given entries n) n := by
  rw [resultOf]
  simp only [bind_eq_ok_iff, mapError_eq_ok_iff]
  constructor
  · rintro ⟨ws, hwords, b, hflag, ds, hdefaults, ps, hpatterns, hpure⟩ n
    cases hpure
    cases n with
    | words => exact ⟨ds, ws, hdefaults, hwords, rfl⟩
    | allowFirst => exact hflag
    | patterns => exact hpatterns
  · intro h
    obtain ⟨ds, ws, hdefaults, hwords, heq⟩ := h .words
    refine ⟨ws, hwords, _, h .allowFirst, ds, hdefaults, _, h .patterns, ?_⟩
    rw [← heq]
    rfl

theorem ofValue_map (basis : Basis) (entries : List (Value × Value)) :
    ofValue basis (.map entries) = (checkKeys entries >>= fun _ => resultOf basis entries) := rfl

theorem resultOf_of_ofValue {entries : List (Value × Value)} {o : RuleOptions}
    (h : ofValue basis (.map entries) = .ok o) : resultOf basis entries = .ok o := by
  rw [ofValue_map] at h
  obtain ⟨_, -, hresult⟩ := bind_eq_ok_iff.mp h
  exact hresult

end RuleOptions

namespace GivenOptions

/-- The options that are given, or what is wrong with them. -/
def result (basis : Basis) : GivenOptions → Except OptionFault RuleOptions
  | raw v => RuleOptions.ofValue basis v
  | built o => .ok o

theorem build_yields (basis : Basis) : ∀ given : GivenOptions,
    (given.build basis).run.Yields (given.result basis)
  | raw v => RuleOptions.build_yields basis v
  | built o => LoggedExcept.yields_pure o

end GivenOptions

end Headline
