import Headline.Arguments.Basic
import Headline.Proofs.RuleOptions.Refused

/-!
# Flags over the options of a file

A flag is put over the entries of a file under the first spelling of its option. Where the file
has this spelling already, the entry takes the new value and keeps its place. Since the last
entry of an option counts, the flag wins, but for one case: the file has the option under the
first spelling and, further down, under the other one (`Overruled`). Then the later entry stands
and the flag has no effect.

One step puts one value (`given_put`, `given_put_of_ne`). Steps for different options do not
meet, so the three of them come to what each does by itself (`given_overlay_eq`).
-/

namespace Headline

/-- Only a text is the same key as a text. -/
theorem Value.sameKey_str {k : Value} {s : String} : k.sameKey (.str s) = true ↔ k = .str s := by
  cases k <;> simp [Value.sameKey, Value.number?]

namespace RuleOptions

/-! ## One value -/

/-- Put a value under the first spelling of an option. -/
def put (entries : List (Value × Value)) (n : Name) (v : Value) : List (Value × Value) :=
  Value.putEntry entries (.str n.key) v

/-- An entry under the first spelling of an option has another entry of that option behind it. -/
def Overruled (entries : List (Value × Value)) (n : Name) : Prop :=
  ∃ before old after, entries = before ++ (.str n.key, old) :: after
    ∧ ∃ e ∈ after, Name.ofKey? e.1 = some n

variable {n m : Name} {e : Value × Value} {es : List (Value × Value)} {v : Value}

theorem Name.key_ne (h : m ≠ n) : Value.str m.key ≠ .str n.key := by
  intro hkey
  have hname := Name.ofKey?_key m
  rw [hkey, Name.ofKey?_key] at hname
  exact h (Option.some.inj hname).symm

@[simp] theorem put_nil : put [] n v = [(.str n.key, v)] := rfl

theorem put_cons_key (h : e.1 = .str n.key) : put (e :: es) n v = (.str n.key, v) :: es := by
  obtain ⟨k, old⟩ := e
  subst h
  rw [put, Value.putEntry, Value.putEntryBy, if_pos (Value.sameKey_str.mpr rfl)]

theorem put_cons_of_ne (h : e.1 ≠ .str n.key) : put (e :: es) n v = e :: put es n v := by
  obtain ⟨k, old⟩ := e
  rw [put, Value.putEntry, Value.putEntryBy, if_neg (fun hsame => h (Value.sameKey_str.mp hsame))]
  rfl

theorem not_overruled_nil : ¬Overruled [] n := by
  rintro ⟨before, old, after, heq, -⟩
  cases before <;> cases heq

theorem overruled_cons_key (h : e.1 = .str n.key) :
    Overruled (e :: es) n ↔ (given es n).isSome = true := by
  obtain ⟨k, old⟩ := e
  subst h
  rw [given_isSome_iff]
  constructor
  · rintro ⟨before, old', after, heq, e, he, hname⟩
    refine ⟨e, ?_, hname⟩
    cases before with
    | nil => cases heq; exact he
    | cons b bs =>
        cases heq
        exact List.mem_append_right _ (List.mem_cons_of_mem _ he)
  · rintro ⟨e, he, hname⟩
    exact ⟨[], old, es, rfl, e, he, hname⟩

theorem overruled_cons_of_ne (h : e.1 ≠ .str n.key) : Overruled (e :: es) n ↔ Overruled es n := by
  constructor
  · rintro ⟨before, old, after, heq, hlater⟩
    cases before with
    | nil => cases heq; exact absurd rfl h
    | cons b bs => cases heq; exact ⟨bs, old, after, rfl, hlater⟩
  · rintro ⟨before, old, after, rfl, hlater⟩
    exact ⟨e :: before, old, after, rfl, hlater⟩

/-- **A value that is put counts, unless it is overruled.** -/
theorem given_put (es : List (Value × Value)) (n : Name) (v : Value) :
    (Overruled es n → given (put es n v) n = given es n)
      ∧ (¬Overruled es n → given (put es n v) n = some v) := by
  induction es with
  | nil => simp [not_overruled_nil, given_singleton, Name.ofKey?_key]
  | cons e es ih =>
      by_cases hkey : e.1 = .str n.key
      · rw [put_cons_key hkey, overruled_cons_key hkey, given_cons, given_cons, hkey,
          if_pos (Name.ofKey?_key n)]
        cases given es n <;> simp
      · rw [put_cons_of_ne hkey, overruled_cons_of_ne hkey, given_cons, given_cons]
        refine ⟨fun h => ?_, fun h => ?_⟩
        · rw [ih.1 h]
        · rw [ih.2 h]
          rfl

/-- A value that is put does not count for another option. -/
theorem given_put_of_ne (h : m ≠ n) (es : List (Value × Value)) (v : Value) :
    given (put es m v) n = given es n := by
  have hname : Name.ofKey? (.str m.key) ≠ some n := by
    rw [Name.ofKey?_key]
    exact fun heq => h (Option.some.inj heq)
  induction es with
  | nil => rw [put_nil, given_singleton, if_neg hname, given_nil]
  | cons e es ih =>
      by_cases hkey : e.1 = .str m.key
      · rw [put_cons_key hkey, given_cons, given_cons, hkey, if_neg hname, if_neg hname]
      · rw [put_cons_of_ne hkey, given_cons, given_cons, ih]

theorem overruled_put_of_ne (h : m ≠ n) (es : List (Value × Value)) (v : Value) :
    Overruled (put es m v) n ↔ Overruled es n := by
  have hother := Name.key_ne h
  induction es with
  | nil => rw [put_nil, overruled_cons_of_ne hother]
  | cons e es ih =>
      by_cases hkey : e.1 = .str m.key
      · rw [put_cons_key hkey, overruled_cons_of_ne hother, overruled_cons_of_ne (hkey ▸ hother)]
      · rw [put_cons_of_ne hkey]
        by_cases hn : e.1 = .str n.key
        · rw [overruled_cons_key hn, overruled_cons_key hn, given_put_of_ne h]
        · rw [overruled_cons_of_ne hn, overruled_cons_of_ne hn]
          exact ih

/-- Put a value if there is one. -/
def put? (entries : List (Value × Value)) (n : Name) : Option Value → List (Value × Value)
  | some v => put entries n v
  | none => entries

theorem given_put?_of_ne (h : m ≠ n) (es : List (Value × Value)) (v? : Option Value) :
    given (put? es m v?) n = given es n := by
  cases v? with
  | none => rfl
  | some v => exact given_put_of_ne h es v

/-- What a put comes to depends on the last value before it and on whether it is overruled. -/
theorem given_put?_congr {es es' : List (Value × Value)} (hover : Overruled es n ↔ Overruled es' n)
    (hgiven : given es n = given es' n) (v? : Option Value) :
    given (put? es n v?) n = given (put? es' n v?) n := by
  cases v? with
  | none => exact hgiven
  | some v =>
      obtain ⟨hstands, hwins⟩ := given_put es n v
      obtain ⟨hstands', hwins'⟩ := given_put es' n v
      by_cases h : Overruled es n
      · exact (hstands h).trans (hgiven.trans (hstands' (hover.mp h)).symm)
      · exact (hwins h).trans (hwins' fun h' => h (hover.mpr h')).symm

theorem overruled_put?_of_ne (h : m ≠ n) (es : List (Value × Value)) (v? : Option Value) :
    Overruled (put? es m v?) n ↔ Overruled es n := by
  cases v? with
  | none => exact Iff.rfl
  | some v => exact overruled_put_of_ne h es v

end RuleOptions

namespace Arguments

open RuleOptions

variable {a : Arguments} {entries : List (Value × Value)} {n : Name} {v : Value}

/-! ## Three options -/

/-- The value that the flags of a command line set an option to. -/
def setting (a : Arguments) : Name → Option Value
  | .words => a.words.map fun ws => .list (ws.map .str)
  | .allowFirst => if a.allowFirst then some (.bool true) else none
  | .patterns => a.patterns.map fun ps => .list (ps.map .str)

theorem overlay_eq (a : Arguments) (entries : List (Value × Value)) :
    a.overlay entries =
      put? (put? (put? entries .words (a.setting .words)) .allowFirst (a.setting .allowFirst))
        .patterns (a.setting .patterns) := by
  have hput : ∀ n v? es, (match v? with
      | some v => Value.putEntry es (.str (Name.key n)) v
      | none => es) = put? es n v? := fun n v? es => by cases v? <;> rfl
  rw [← hput, ← hput, ← hput]
  rfl

/-- The flags of the other options do not matter. -/
theorem given_overlay_eq (a : Arguments) (entries : List (Value × Value)) (n : Name) :
    given (a.overlay entries) n = given (put? entries n (a.setting n)) n := by
  rw [overlay_eq]
  cases n with
  | words => rw [given_put?_of_ne (by decide), given_put?_of_ne (by decide)]
  | allowFirst =>
      rw [given_put?_of_ne (by decide)]
      refine given_put?_congr ?_ ?_ _
      · exact overruled_put?_of_ne (by decide) _ _
      · exact given_put?_of_ne (by decide) _ _
  | patterns =>
      refine given_put?_congr ?_ ?_ _
      · rw [overruled_put?_of_ne (by decide), overruled_put?_of_ne (by decide)]
      · rw [given_put?_of_ne (by decide), given_put?_of_ne (by decide)]

/-- An option that no flag sets, or that the file sets again under its other spelling, has its
last value in the file. -/
theorem given_overlay_of_file (h : a.setting n = none ∨ Overruled entries n) :
    given (a.overlay entries) n = given entries n := by
  rw [given_overlay_eq]
  cases hset : a.setting n with
  | none => rfl
  | some v =>
      have hover := h.resolve_left (by rw [hset]; exact Option.some_ne_none v)
      exact (given_put entries n v).1 hover

/-- Any other option has the value of its flag. -/
theorem given_overlay_of_flag (hset : a.setting n = some v) (h : ¬Overruled entries n) :
    given (a.overlay entries) n = some v := by
  rw [given_overlay_eq, hset]
  exact (given_put entries n v).2 h

/-! ## What the values of flags stand for -/

theorem checkWords_map_str (ws : List String) :
    checkWords (some (.list (ws.map .str))) = .ok ws :=
  checkWords_eq_ok_iff.mpr (.list ws)

/-- Patterns are read in order, all or none. -/
theorem forall₂_of_checkPatterns {characters : Pattern.CharacterNames} {ps : List String}
    {qs : List Pattern} (h : checkPatterns characters (.list (ps.map .str)) = .ok qs) :
    List.Forall₂ (fun p q => Pattern.compile characters p = .ok q) ps qs := by
  obtain ⟨ps', hps, hread⟩ := mapM_checkPattern_eq_ok_iff.mp h
  have hinj : Function.Injective Value.str := fun _ _ => Value.str.inj
  rw [List.map_injective_iff.mpr hinj hps]
  exact hread

/-- **Flags and the file.** Let the options of a file with the flags put over them pass their
checks. A flag that is not overruled decides its option: the caller's words are those of the
command line in lower case, the permission is given, the patterns are those of the command line
in their order. Every other option has the last value that the file gives it. -/
theorem flags_count_unless_overruled {basis : Basis} {o : RuleOptions} {log : List Log.Entry}
    (h : ((RuleOptions.build basis (.map (a.overlay entries))).run.run log).1 = .ok o) :
    (∀ ws, a.words = some ws → ¬Overruled entries .words →
        o.words.custom = (ws.map Text.lower).eraseDups)
      ∧ (a.allowFirst = true → ¬Overruled entries .allowFirst → o.allowFirst = true)
      ∧ (∀ ps, a.patterns = some ps → ¬Overruled entries .patterns →
        List.Forall₂ (fun p q => Pattern.compile basis.characters p = .ok q) ps o.patterns)
      ∧ ∀ n, a.setting n = none ∨ Overruled entries n → o.Takes basis (given entries n) n := by
  rw [build_yields] at h
  have htakes : ∀ n, o.Takes basis (given (a.overlay entries) n) n :=
    resultOf_eq_ok_iff.mp (resultOf_of_ofValue h)
  refine ⟨?_, ?_, ?_, ?_⟩
  · intro ws hws hover
    have hset : a.setting .words = some (.list (ws.map .str)) := by rw [setting, hws]; rfl
    obtain ⟨ds, ws', -, hcheck, hwords⟩ := htakes .words
    rw [given_overlay_of_flag hset hover, checkWords_map_str] at hcheck
    cases hcheck
    rw [hwords]
    rfl
  · intro hallow hover
    have hset : a.setting .allowFirst = some (.bool true) := by rw [setting, if_pos hallow]
    have hcheck : checkFlag (given (a.overlay entries) .allowFirst) = .ok o.allowFirst :=
      htakes .allowFirst
    rw [given_overlay_of_flag hset hover] at hcheck
    exact (Except.ok.inj hcheck).symm
  · intro ps hps hover
    have hset : a.setting .patterns = some (.list (ps.map .str)) := by rw [setting, hps]; rfl
    have hcheck : checkPatterns basis.characters
        ((given (a.overlay entries) .patterns).getD .null) = .ok o.patterns := htakes .patterns
    rw [given_overlay_of_flag hset hover] at hcheck
    exact forall₂_of_checkPatterns hcheck
  · intro n hfile
    rw [← given_overlay_of_file hfile]
    exact htakes n

/-- A command line that lists one word and has no other flag. -/
def withWord (word : String) : Arguments :=
  ⟨["a.md"], some "rule.yaml", some [word], false, none, none⟩

/-- A file that has an option under its other spelling only does not overrule the flag. -/
theorem flags_count_unless_overruled_other_spelling :
    let entries := [(.str "lower_case_words", .list [.str "bar"]),
      (.str "allow_first_word_lower_case", .bool true)]
    let o : RuleOptions := ⟨.ofWords defaultWords ["Qux"], true, []⟩
    ((RuleOptions.build .plain (.map ((withWord "Qux").overlay entries))).run.run []).1 = .ok o
      ∧ ¬Overruled entries .words
      ∧ o.words.custom = ["qux"]
      ∧ o.Takes .plain (given entries .allowFirst) .allowFirst := by
  intro entries o
  have hbuild :
      ((RuleOptions.build .plain (.map ((withWord "Qux").overlay entries))).run.run []).1 =
        .ok o := by
    rfl
  have hover : ¬Overruled entries .words := by
    rw [overruled_cons_of_ne fun h => absurd (Value.str.inj h) (by decide),
      overruled_cons_of_ne fun h => absurd (Value.str.inj h) (by decide)]
    exact not_overruled_nil
  obtain ⟨hwords, -, -, hfile⟩ := flags_count_unless_overruled hbuild
  refine ⟨hbuild, hover, (hwords ["Qux"] rfl hover).trans ?_, hfile .allowFirst (Or.inl rfl)⟩
  decide +kernel

/-- A file that has the words under both spellings, the first one first, keeps its last words:
those of the command line do not count. -/
theorem flag_overruled :
    let entries := [(.str "lowerCaseWords", .list [.str "baz"]),
      (.str "lower_case_words", .list [.str "bar"])]
    ∃ o : RuleOptions,
      ((RuleOptions.build .plain (.map ((withWord "qux").overlay entries))).run.run []).1 = .ok o
        ∧ o.words.custom = ["bar"]
        ∧ o.words.custom ≠ (["qux"].map Text.lower).eraseDups := by
  refine ⟨⟨.ofWords defaultWords ["bar"], false, []⟩, rfl, ?_, ?_⟩ <;> decide +kernel

end Arguments

end Headline
