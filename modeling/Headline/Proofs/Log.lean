import Headline.Log

/-!
# What logged computations come to

Every part of the library may write to the log, and none reads it. So what a computation
comes to does not depend on what the log holds when it starts. `Logged.Yields` says so and
names the result in one statement; it is put together along the steps of a computation, and
the log drops out of everything that is proved afterwards.

A computation that may fail is treated through its run, which comes to a result or a fault.
-/

namespace Headline

variable {α β ε : Type}

/-- The computation comes to `a`, whatever the log holds when it starts. -/
def Logged.Yields (x : Logged α) (a : α) : Prop := ∀ log, (x.run log).1 = a

namespace Logged

theorem yields_pure (a : α) : Yields (pure a) a := fun _ => rfl

theorem yields_write (source : Log.Source) (level : Log.Level) (message : String) :
    (Log.write source level message).Yields () := fun _ => rfl

theorem Yields.bind {x : Logged α} {f : α → Logged β} {a : α} {b : β}
    (hx : x.Yields a) (hf : (f a).Yields b) : (x >>= f).Yields b := by
  intro log
  show ((f (x.run log).1).run (x.run log).2).1 = b
  rw [hx log]
  exact hf _

/-- What the second part always comes to, the whole does. -/
theorem of_bind {x : Logged α} {f : α → Logged β} {P : β → Prop}
    (hf : ∀ a log, P ((f a).run log).1) (log : List Log.Entry) : P ((x >>= f).run log).1 :=
  hf (x.run log).1 (x.run log).2

end Logged

/-- The computation comes to `a` and writes `entries` at the end of the log. -/
def Logged.Writes (x : Logged α) (a : α) (entries : List Log.Entry) : Prop :=
  ∀ log, x.run log = (a, log ++ entries)

namespace Logged

variable {x : Logged α} {a : α} {es ds : List Log.Entry}

theorem Writes.yields (h : x.Writes a es) : x.Yields a := fun log => congrArg Prod.fst (h log)

theorem writes_pure (a : α) : (pure a : Logged α).Writes a [] := fun log => by
  rw [List.append_nil]
  rfl

theorem writes_append (es : List Log.Entry) : (Log.append es).Writes () es := fun _ => rfl

theorem Writes.bind {f : α → Logged β} {b : β} (hx : x.Writes a es) (hf : (f a).Writes b ds) :
    (x >>= f).Writes b (es ++ ds) := by
  intro log
  show (f (x.run log).1).run (x.run log).2 = _
  rw [hx log, hf, List.append_assoc]

end Logged

/-! ## Computations that may fail -/

namespace LoggedExcept

theorem yields_pure (a : α) : (pure a : LoggedExcept ε α).run.Yields (.ok a) := fun _ => rfl

/-- Once the first part has succeeded, the second decides. -/
theorem yields_bind_ok {x : LoggedExcept ε α} {f : α → LoggedExcept ε β} {a : α}
    {r : Except ε β} (hx : x.run.Yields (.ok a)) (hf : (f a).run.Yields r) :
    (x >>= f).run.Yields r := by
  intro log
  rw [ExceptT.run_bind]
  exact Logged.Yields.bind hx hf log

/-- A fault of the first part is one of the whole. -/
theorem yields_bind_error {x : LoggedExcept ε α} {f : α → LoggedExcept ε β} {e : ε}
    (hx : x.run.Yields (.error e)) : (x >>= f).run.Yields (.error e) := by
  intro log
  rw [ExceptT.run_bind]
  refine Logged.Yields.bind hx ?_ log
  exact Logged.yields_pure _

/-- Both parts in one statement. -/
theorem yields_bind {x : LoggedExcept ε α} {f : α → LoggedExcept ε β} {r : Except ε α}
    {g : α → Except ε β} (hx : x.run.Yields r) (hf : ∀ a, (f a).run.Yields (g a)) :
    (x >>= f).run.Yields (r.bind g) := by
  cases r with
  | error e => exact yields_bind_error hx
  | ok a => exact yields_bind_ok hx (hf a)

theorem yields_ofResult (r : Except ε α) : (LoggedExcept.ofResult r).run.Yields r :=
  fun _ => rfl

theorem writes_ofResult (r : Except ε α) : (ofResult r).run.Writes r [] :=
  Logged.writes_pure r

theorem writes_lift {x : Logged α} {a : α} {es : List Log.Entry} (hx : x.Writes a es) :
    (liftM x : LoggedExcept ε α).run.Writes (.ok a) es := by
  intro log
  show ((Except.ok (x.run log).1, (x.run log).2) : Except ε α × List Log.Entry) = _
  rw [hx log]

theorem writes_bind_ok {x : LoggedExcept ε α} {f : α → LoggedExcept ε β} {a : α}
    {r : Except ε β} {es ds : List Log.Entry} (hx : x.run.Writes (.ok a) es)
    (hf : (f a).run.Writes r ds) : (x >>= f).run.Writes r (es ++ ds) := by
  rw [ExceptT.run_bind]
  exact Logged.Writes.bind hx hf

theorem writes_bind_error {x : LoggedExcept ε α} {f : α → LoggedExcept ε β} {e : ε}
    {es : List Log.Entry} (hx : x.run.Writes (.error e) es) :
    (x >>= f).run.Writes (.error e) es := by
  rw [ExceptT.run_bind, ← List.append_nil es]
  exact Logged.Writes.bind hx (Logged.writes_pure _)

/-- Both parts in one statement. What the second part writes may depend on the first. -/
theorem exists_writes_bind {x : LoggedExcept ε α} {f : α → LoggedExcept ε β} {r : Except ε α}
    {g : α → Except ε β} (hx : ∃ es, x.run.Writes r es)
    (hf : ∀ a, ∃ es, (f a).run.Writes (g a) es) : ∃ es, (x >>= f).run.Writes (r >>= g) es := by
  obtain ⟨es, hes⟩ := hx
  cases r with
  | error e => exact ⟨es, writes_bind_error hes⟩
  | ok a =>
      obtain ⟨ds, hds⟩ := hf a
      exact ⟨es ++ ds, writes_bind_ok hes hds⟩

/-- A step that cannot fail, inside a computation that may. -/
theorem yields_lift {x : Logged α} {a : α} (hx : x.Yields a) :
    (liftM x : LoggedExcept ε α).run.Yields (.ok a) := by
  intro log
  show ((x.run log).1 |> Except.ok) = Except.ok a
  rw [hx log]

end LoggedExcept

/-- Two parts succeed exactly if each of them does. -/
theorem bind_eq_ok_iff {r : Except ε α} {g : α → Except ε β} {b : β} :
    r >>= g = .ok b ↔ ∃ a, r = .ok a ∧ g a = .ok b := by
  cases r with
  | error e => simp [bind, Except.bind]
  | ok a => simp [bind, Except.bind]

@[simp] theorem mapError_ok {ε' : Type} (a : α) (f : ε → ε') :
    (Except.ok a : Except ε α).mapError f = .ok a := rfl

@[simp] theorem mapError_error {ε' : Type} (e : ε) (f : ε → ε') :
    (Except.error e : Except ε α).mapError f = .error (f e) := rfl

/-- To call a fault by another name makes nothing succeed and nothing fail. -/
theorem mapError_eq_ok_iff {ε' : Type} {r : Except ε α} {f : ε → ε'} {a : α} :
    r.mapError f = .ok a ↔ r = .ok a := by
  cases r with
  | error e => exact ⟨nofun, nofun⟩
  | ok b => exact ⟨fun h => by cases h; rfl, fun h => by cases h; rfl⟩

end Headline
