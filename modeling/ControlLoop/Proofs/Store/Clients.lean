import ControlLoop.Proofs.Store.Update
import Mathlib.Logic.Function.Basic

/-!
# Clients of a store

Any number of clients fetch copies of objects, change them and write them back, in any order and as
often as they like. A fetched copy gets a number of its own and keeps it through changes and writes.
It remembers the object as the store last gave it and the number of successful writes by then, so
that at the next write it can be told whether it was based on the object as it was stored.
-/

namespace ControlLoop

/-- A change of an object that leaves its key and its version alone. -/
structure Edit where
  apply : Object → Object
  key_apply : ∀ o, (apply o).key = o.key
  version_apply : ∀ o, (apply o).version = o.version

/-- A copy in the hands of a client: `base` is the object as the store last gave it, after
`revision` successful writes under its key. -/
structure Copy where
  serial : Nat
  object : Object
  base : Object
  revision : Nat

namespace Copy

def key (c : Copy) : ObjectKey := c.object.key

def version (c : Copy) : UInt64 := c.object.version

def edited (c : Copy) (e : Edit) : Copy := { c with object := e.apply c.object }

@[simp] theorem key_edited (c : Copy) (e : Edit) : (c.edited e).key = c.key :=
  e.key_apply c.object

@[simp] theorem version_edited (c : Copy) (e : Edit) : (c.edited e).version = c.version :=
  e.version_apply c.object

/-- The copy after a write of it that followed `revision` successful ones. -/
def answered (c : Copy) (revision : Nat) : Except Error Object → Copy
  | .ok written => { c with object := written, base := written, revision := revision + 1 }
  | .error _ => c

@[simp] theorem serial_answered (c : Copy) (revision : Nat) (answer : Except Error Object) :
    (c.answered revision answer).serial = c.serial := by
  cases answer <;> rfl

end Copy

/-- A write of a copy while `stored` was stored under its key, after `revision` successful ones. -/
structure Attempt where
  copy : Copy
  stored : Option Object
  revision : Nat
  answer : Except Error Object

namespace Attempt

def key (a : Attempt) : ObjectKey := a.copy.key

def version (a : Attempt) : UInt64 := a.copy.version

def succeeded (a : Attempt) : Bool := a.answer.isOk

end Attempt

theorem Copy.answered_eq_self {c : Copy} {revision : Nat} {answer : Except Error Object}
    (h : ¬ answer.isOk) : c.answered revision answer = c := by
  cases answer with
  | ok written => exact absurd rfl h
  | error e => rfl

structure Traffic (κ : Type) where
  store : Store
  copies : κ → Option Copy
  fetches : Nat
  attempts : List Attempt

inductive Move (κ : Type) where
  | fetch (client : κ) (key : ObjectKey)
  | change (client : κ) (edit : Edit)
  | write (client : κ)

namespace Traffic

variable {κ : Type}

/-- Clients without copies before a store. -/
def opening (s : Store) : Traffic κ := ⟨s, fun _ ↦ none, 0, []⟩

variable (t : Traffic κ)

def attemptsOn (key : ObjectKey) : List Attempt := t.attempts.filter (·.key = key)

def successes (key : ObjectKey) : List Attempt := (t.attemptsOn key).filter (·.succeeded)

/-- The write of a copy at this time. -/
def attempt (c : Copy) : Attempt :=
  ⟨c, t.store.get? c.key, (t.successes c.key).length, (t.store.update c.object).1⟩

/-- A write leaves a copy under its key. -/
theorem key_answered (c : Copy) :
    (c.answered (t.attempt c).revision (t.attempt c).answer).key = c.key := by
  cases hanswer : (t.attempt c).answer with
  | error e => rfl
  | ok written =>
    change written.key = c.object.key
    rw [Store.eq_advanced_of_update hanswer, Object.key_advanced]

variable [DecidableEq κ] (client : κ)

def fetch (key : ObjectKey) : Traffic κ :=
  { t with
    copies := Function.update t.copies client
      ((t.store.get? key).map fun o ↦ ⟨t.fetches, o, o, (t.successes key).length⟩)
    fetches := t.fetches + 1 }

def change (e : Edit) : Traffic κ :=
  { t with copies := Function.update t.copies client ((t.copies client).map (·.edited e)) }

def write (c : Copy) : Traffic κ :=
  { t with
    store := (t.store.update c.object).2
    copies := Function.update t.copies client
      (some (c.answered (t.attempt c).revision (t.attempt c).answer))
    attempts := t.attempts ++ [t.attempt c] }

def step : Move κ → Traffic κ
  | .fetch client key => t.fetch client key
  | .change client e => t.change client e
  | .write client =>
    match t.copies client with
    | some c => t.write client c
    | none => t

def run (moves : List (Move κ)) : Traffic κ :=
  moves.foldl (fun t move ↦ t.step move) t

variable {t client} {c : Copy} {key : ObjectKey}

theorem step_write (h : t.copies client = some c) : t.step (.write client) = t.write client c := by
  simp [step, h]

theorem step_write_of_none (h : t.copies client = none) : t.step (.write client) = t := by
  simp [step, h]

theorem of_update_eq_some {copies : κ → Option Copy} {new : Option Copy} {d : κ}
    (h : Function.update copies client new d = some c) :
    (d = client ∧ new = some c) ∨ (d ≠ client ∧ copies d = some c) := by
  by_cases hd : d = client
  · subst hd
    rw [Function.update_self] at h
    exact .inl ⟨rfl, h⟩
  · rw [Function.update_of_ne hd] at h
    exact .inr ⟨hd, h⟩

/-- A copy held after a fetch is the one fetched, or another client held it before. -/
theorem copies_fetch {d : κ} (h : (t.fetch client key).copies d = some c) :
    (d = client ∧ ∃ o, t.store.get? key = some o ∧
      c = ⟨t.fetches, o, o, (t.successes key).length⟩) ∨
    (d ≠ client ∧ t.copies d = some c) := by
  rcases of_update_eq_some h with ⟨hd, hnew⟩ | hold
  · obtain ⟨o, ho, hc⟩ := Option.map_eq_some_iff.1 hnew
    exact .inl ⟨hd, o, ho, hc.symm⟩
  · exact .inr hold

theorem copies_change {d : κ} {e : Edit} (h : (t.change client e).copies d = some c) :
    t.copies d = some c ∨ ∃ old, t.copies d = some old ∧ c = old.edited e := by
  rcases of_update_eq_some h with ⟨rfl, hnew⟩ | ⟨-, hold⟩
  · obtain ⟨old, hold, hc⟩ := Option.map_eq_some_iff.1 hnew
    exact .inr ⟨old, hold, hc.symm⟩
  · exact .inl hold

/-- A copy held after a write is the answered one, or another client held it before. -/
theorem copies_write {d : κ} {old : Copy} (h : (t.write client old).copies d = some c) :
    (d = client ∧ c = old.answered (t.attempt old).revision (t.attempt old).answer) ∨
    (d ≠ client ∧ t.copies d = some c) := by
  rcases of_update_eq_some h with ⟨hd, hnew⟩ | hold
  · exact .inl ⟨hd, (Option.some.inj hnew).symm⟩
  · exact .inr hold

/-- A write is one more attempt under the key of its copy. -/
theorem attemptsOn_write :
    (t.write client c).attemptsOn key =
      t.attemptsOn key ++ if c.key = key then [t.attempt c] else [] := by
  have hkey : (t.attempt c).key = c.key := rfl
  rw [attemptsOn, attemptsOn, write, List.filter_append]
  by_cases h : c.key = key
  · simp [hkey, h]
  · simp [hkey, h]

theorem successes_write :
    (t.write client c).successes key =
      t.successes key ++ if c.key = key ∧ (t.attempt c).succeeded then [t.attempt c] else [] := by
  rw [successes, successes, attemptsOn_write, List.filter_append]
  by_cases h : c.key = key
  · cases hok : (t.attempt c).succeeded <;> simp [h, hok]
  · simp [h]

end Traffic

end ControlLoop
