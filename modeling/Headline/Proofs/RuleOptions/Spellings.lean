import Headline.Proofs.RuleOptions.Refused

/-!
# Entries that do not count

Of the entries of a mapping, few have a say in the options. An entry under a key that stands for
no option calls forth a warning and nothing more, and one under a spelling of an option counts
only if it is the last for that option under either spelling. So options are the same, or are
refused for the same reason, as those of a mapping that has the last value of each option under
its first spelling and no other entry (`build_last_values`). What is wrong with a value does not
matter if another value for the same option follows.

There is one exception. The warning shows its key, and a key that cannot be shown ends the check
then and there, whatever the options are.

The warnings are written before anything is checked. They are told here entry by entry
(`Warned`), without the loop that writes them.
-/

namespace Headline

namespace RuleOptions

variable {entries es : List (Value × Value)} {n m : Name} {k v : Value}

/-! ## The last value under either spelling -/

theorem Name.eq_of_spelled (h : m.Spelled (.str n.key)) : m = n := by
  have hm := Name.ofKey?_eq_some_iff.mpr h
  rw [Name.ofKey?_key] at hm
  exact (Option.some.inj hm).symm

/-- The value is the last that the entries have for an option, under either spelling. -/
def LastGiven (entries : List (Value × Value)) (n : Name) (v : Value) : Prop :=
  ∃ before k after, entries = before ++ (k, v) :: after ∧ n.Spelled k
    ∧ ∀ e ∈ after, ¬n.Spelled e.1

theorem given_eq_some_iff_lastGiven : given entries n = some v ↔ LastGiven entries n v := by
  rw [given_eq_some_iff, LastGiven]
  simp only [ne_eq, Name.ofKey?_eq_some_iff, Name.Spelled]

/-- All options. -/
def Name.all : List Name := [.words, .allowFirst, .patterns]

theorem Name.mem_all (n : Name) : n ∈ Name.all := by
  cases n <;> decide

/-- The last value of each option under its first spelling, and nothing else. -/
def lastValues (entries : List (Value × Value)) : List (Value × Value) :=
  Name.all.filterMap fun n => (given entries n).map fun v => (.str n.key, v)

theorem mem_lastValues {e : Value × Value} :
    e ∈ lastValues entries ↔ ∃ n v, e = (.str n.key, v) ∧ LastGiven entries n v := by
  rw [lastValues, List.mem_filterMap]
  constructor
  · rintro ⟨n, -, h⟩
    obtain ⟨v, hv, rfl⟩ := Option.map_eq_some_iff.mp h
    exact ⟨n, v, rfl, given_eq_some_iff_lastGiven.mp hv⟩
  · rintro ⟨n, v, rfl, hv⟩
    have hgiven := given_eq_some_iff_lastGiven.mpr hv
    exact ⟨n, Name.mem_all n, Option.map_eq_some_iff.mpr ⟨v, hgiven, rfl⟩⟩

/-- Each option has the same last value as before. -/
theorem given_lastValues (entries : List (Value × Value)) (n : Name) :
    given (lastValues entries) n = given entries n := by
  -- an entry for the option that is kept can only be the one that it had
  have hkept : ∀ e ∈ lastValues entries, Name.ofKey? e.1 = some n → given entries n = some e.2 := by
    intro e he hkey
    obtain ⟨m, v, rfl, hv⟩ := mem_lastValues.mp he
    obtain rfl := Name.eq_of_spelled (Name.ofKey?_eq_some_iff.mp hkey)
    exact given_eq_some_iff_lastGiven.mpr hv
  cases hlast : given (lastValues entries) n with
  | some v =>
      obtain ⟨before, k, after, hsplit, hkey, -⟩ := given_eq_some_iff.mp hlast
      have hmem : (k, v) ∈ lastValues entries := by
        rw [hsplit]
        exact List.mem_append_right _ (List.mem_cons_self ..)
      exact (hkept _ hmem hkey).symm
  | none =>
      rw [given_eq_none_iff] at hlast
      cases hv : given entries n with
      | none => rfl
      | some v =>
          have hmem := mem_lastValues.mpr ⟨n, v, rfl, given_eq_some_iff_lastGiven.mp hv⟩
          exact absurd (Name.ofKey?_key n) (hlast _ hmem)

/-- The options depend on the last values and on nothing else. -/
theorem ofEntries_congr (basis : Basis) (h : ∀ n, given entries n = given es n) :
    ofEntries basis entries = ofEntries basis es := by
  rw [ofEntries, ofEntries, h, h, h]

/-- An entry with another one for the same option behind it does not count. -/
theorem given_replaced (before : List (Value × Value)) (hk : n.Spelled k)
    (hlater : ∃ e ∈ es, n.Spelled e.1) (m : Name) :
    given (before ++ (k, v) :: es) m = given (before ++ es) m := by
  have hsome : (given es n).isSome = true := by
    obtain ⟨e, he, hkey⟩ := hlater
    exact given_isSome_iff.mpr ⟨e, he, Name.ofKey?_eq_some_iff.mpr hkey⟩
  have htail : given ((k, v) :: es) m = given es m := by
    rw [given_cons, Name.ofKey?_eq_some_iff.mpr hk]
    by_cases hm : n = m
    · subst hm
      obtain ⟨u, hu⟩ := Option.isSome_iff_exists.mp hsome
      rw [hu, Option.some_or]
    · rw [if_neg (fun heq => hm (Option.some.inj heq)), Option.or_none]
  rw [given_append, given_append, htail]

/-! ## Warnings -/

/-- The warning of a key that stands for no option, as it is shown. -/
def warning (shown : String) : Log.Entry :=
  ⟨.options, .warning, s!"Ignoring unknown heading capitalization option '{shown}'"⟩

/-- The warnings that entries call forth: one for each key that stands for no option, in the order
of the entries. -/
inductive Warned : List (Value × Value) → List Log.Entry → Prop
  | nil : Warned [] []
  | known {n : Name} {k v : Value} {es : List (Value × Value)} {ws : List Log.Entry}
      (hk : n.Spelled k) (h : Warned es ws) : Warned ((k, v) :: es) ws
  | unknown {k v : Value} {shown : String} {es : List (Value × Value)} {ws : List Log.Entry}
      (hk : ∀ n : Name, ¬n.Spelled k) (hshown : k.text = .ok shown) (h : Warned es ws) :
      Warned ((k, v) :: es) (warning shown :: ws)

theorem warnUnknown_known (hk : n.Spelled k) (v : Value) (es : List (Value × Value)) :
    warnUnknown ((k, v) :: es) = warnUnknown es := by
  rw [warnUnknown, Name.ofKey?_eq_some_iff.mpr hk]
  rfl

theorem warnUnknown_unknown (hk : ∀ n : Name, ¬n.Spelled k) {shown : String}
    (hshown : k.text = .ok shown) {r : Except OptionFault Unit} {ws : List Log.Entry}
    (h : (warnUnknown es).run.Writes r ws) :
    (warnUnknown ((k, v) :: es)).run.Writes r (warning shown :: ws) := by
  rw [warnUnknown, Name.ofKey?_eq_none_iff.mpr hk, hshown]
  exact LoggedExcept.writes_bind_ok (LoggedExcept.writes_ofResult _)
    (LoggedExcept.writes_bind_ok (LoggedExcept.writes_lift (Logged.writes_append _)) h)

/-- At a key that cannot be shown the warnings end. -/
theorem warnUnknown_mute (hk : Mute k) (v : Value) (es : List (Value × Value)) :
    (warnUnknown ((k, v) :: es)).run.Writes (.error (.unshown .tooManyDigits)) [] := by
  rw [warnUnknown, Name.ofKey?_eq_none_iff.mpr hk.1, Value.text_error_iff.mpr hk.2]
  exact LoggedExcept.writes_bind_error (LoggedExcept.writes_ofResult _)

/-- The warnings of entries with keys that can be shown come before all others. -/
theorem warnUnknown_writes {r : Except OptionFault Unit} {ds : List Log.Entry} :
    ∀ {before : List (Value × Value)}, (∀ e ∈ before, ¬Mute e.1) →
      (warnUnknown es).run.Writes r ds →
      ∃ ws, Warned before ws ∧ (warnUnknown (before ++ es)).run.Writes r (ws ++ ds)
  | [], _, hrest => ⟨[], .nil, hrest⟩
  | (k, v) :: before, hkeys, hrest => by
      obtain ⟨hk, hbefore⟩ := List.forall_mem_cons.mp hkeys
      obtain ⟨ws, hws, hwrites⟩ := warnUnknown_writes hbefore hrest
      by_cases hspelled : ∃ n : Name, n.Spelled k
      · obtain ⟨n, hn⟩ := hspelled
        refine ⟨ws, .known hn hws, ?_⟩
        rw [List.cons_append, warnUnknown_known hn]
        exact hwrites
      · have hnone : ∀ n : Name, ¬n.Spelled k := not_exists.mp hspelled
        obtain ⟨shown, hshown⟩ := Value.exists_text_iff.mpr fun hu => hk ⟨hnone, hu⟩
        exact ⟨warning shown :: ws, .unknown hnone hshown hws,
          warnUnknown_unknown hnone hshown hwrites⟩

/-- Where every key stands for an option, there is no warning. -/
theorem warnUnknown_eq_pure (h : ∀ e ∈ entries, ∃ n : Name, n.Spelled e.1) :
    warnUnknown entries = pure () := by
  induction entries with
  | nil => rfl
  | cons e es ih =>
      obtain ⟨⟨n, hn⟩, hes⟩ := List.forall_mem_cons.mp h
      rw [← ih hes]
      exact warnUnknown_known hn e.2 es

theorem warnUnknown_replaced (before : List (Value × Value)) (hk : n.Spelled k) :
    warnUnknown (before ++ (k, v) :: es) = warnUnknown (before ++ es) := by
  induction before with
  | nil => exact warnUnknown_known hk v es
  | cons e before ih => rw [List.cons_append, List.cons_append, warnUnknown, warnUnknown, ih]

/-! ## What is left of a mapping -/

/-- The warnings come first, and then the options are taken out of the entries. -/
theorem build_map (basis : Basis) (entries : List (Value × Value)) :
    build basis (.map entries) = (warnUnknown entries >>= fun _ => ofEntries basis entries) := rfl

theorem build_lastValues (basis : Basis) (entries : List (Value × Value)) :
    build basis (.map (lastValues entries)) = ofEntries basis entries := by
  have hspelled : ∀ e ∈ lastValues entries, ∃ n : Name, n.Spelled e.1 := by
    intro e he
    obtain ⟨n, v, rfl, -⟩ := mem_lastValues.mp he
    exact ⟨n, Or.inl rfl⟩
  rw [build_map, warnUnknown_eq_pure hspelled, ofEntries_congr basis (given_lastValues entries)]
  rfl

/-- **Entries that count.** Options come out the same, be they options or a fault, if only the
last value of each option is kept, under its first spelling. Before that, each key that stands for
no option is warned of once, in the order of the entries. This holds as long as these keys can be
shown. At the first that cannot, the check ends, after the warnings of those before it, with a
fault that is no mistake in the configuration. An entry that has another one for the same option
behind it may be left out in any case, whatever its value is. -/
theorem build_last_values (basis : Basis) (entries : List (Value × Value)) :
    (∀ e, e ∈ lastValues entries ↔ ∃ n v, e = (.str (Name.key n), v) ∧ LastGiven entries n v)
      ∧ (∃ r ds, (build basis (.map (lastValues entries))).run.Writes r ds
        ∧ ((∀ e ∈ entries, ¬Mute e.1) → ∃ ws, Warned entries ws
          ∧ (build basis (.map entries)).run.Writes r (ws ++ ds)))
      ∧ (∀ before k v after, entries = before ++ (k, v) :: after →
        (∀ e ∈ before, ¬Mute e.1) → Mute k → ∃ ws, Warned before ws
          ∧ (build basis (.map entries)).run.Writes (.error (.unshown .tooManyDigits)) ws)
      ∧ ∀ (n : Name) (before : List (Value × Value)) (k v : Value)
          (between : List (Value × Value)) (k' v' : Value) (after : List (Value × Value)),
        n.Spelled k → n.Spelled k' →
        entries = before ++ (k, v) :: (between ++ (k', v') :: after) →
          build basis (.map entries) =
            build basis (.map (before ++ (between ++ (k', v') :: after))) := by
  refine ⟨fun e => mem_lastValues, ?_, ?_, ?_⟩
  · obtain ⟨ds, hds⟩ := ofEntries_writes basis entries
    refine ⟨resultOf basis entries, ds, ?_, fun hkeys => ?_⟩
    · rw [build_lastValues]
      exact hds
    · have hnil : (warnUnknown []).run.Writes (.ok ()) [] := Logged.writes_pure _
      obtain ⟨ws, hws, hwrites⟩ := warnUnknown_writes hkeys hnil
      rw [List.append_nil, List.append_nil] at hwrites
      exact ⟨ws, hws, build_map basis entries ▸ LoggedExcept.writes_bind_ok hwrites hds⟩
  · rintro before k v after rfl hbefore hk
    obtain ⟨ws, hws, hwrites⟩ := warnUnknown_writes hbefore (warnUnknown_mute hk v after)
    rw [List.append_nil] at hwrites
    rw [build_map]
    exact ⟨ws, hws, LoggedExcept.writes_bind_error hwrites⟩
  · rintro n before k v between k' v' after hk hk' rfl
    have hlater : ∃ e ∈ between ++ (k', v') :: after, n.Spelled e.1 :=
      ⟨(k', v'), List.mem_append_right _ (List.mem_cons_self ..), hk'⟩
    rw [build_map, build_map, warnUnknown_replaced before hk,
      ofEntries_congr basis (given_replaced before hk hlater)]

/-- One entry under the least number that cannot be shown: without it there are options, and with
it there are none. -/
theorem build_stops_at_long_key :
    lastValues [(.int Value.digitLimit, .null)] = []
      ∧ ((build .plain (.map (lastValues [(.int Value.digitLimit, .null)]))).run.run []).1
        = .ok ⟨.ofWords defaultWords [], false, []⟩
      ∧ (build .plain (.map [(.int Value.digitLimit, .null)])).run.run []
        = (.error (.unshown .tooManyDigits), [])
      ∧ (OptionFault.unshown .tooManyDigits).isConfiguration = false := by
  have hlong : Value.digitLimit ≤ (Value.digitLimit : Int).natAbs :=
    Nat.le_of_eq (Int.natAbs_natCast _).symm
  generalize (Value.digitLimit : Int) = n at hlong ⊢
  have hmute : Mute (.int n) := ⟨Name.ofKey?_eq_none_iff.mp rfl, .whole hlong⟩
  refine ⟨rfl, rfl, ?_, rfl⟩
  rw [build_map]
  exact LoggedExcept.writes_bind_error (warnUnknown_mute hmute .null []) []

end RuleOptions

end Headline
