import ControlLoop.Object.Wire
import ControlLoop.Proofs.StatusUpdate.Result

/-!
# Which conditions have a transition time

A condition gets a transition time when it is first recorded and when its status changes. A set that
is read from a list may hold conditions without one, and recording such a condition again with the
status that it has leaves it without one: neither the clock nor a time that the recorded condition
brings along fills the gap. So after a condition is recorded its type has a time unless it was there
without one and keeps its status, and the same holds of the types that a status update sets.
-/

namespace ControlLoop

namespace Conditions

variable {s : Conditions} {c : Condition} {clock : Stamp} {type : String}

/-- The transition time of a type, if the type is there and has one. -/
def time? (s : Conditions) (type : String) : Option Stamp :=
  (s.find? type).bind Condition.lastTransition

theorem time?_set :
    (s.set c clock).time? c.type =
      (Condition.recorded clock (s.find? c.type) c).lastTransition := by
  rw [time?, find?_set, if_pos rfl]
  rfl

/-- A condition that is set has a time unless it is there without one and with the same status. -/
theorem isSome_time?_set_iff :
    ((s.set c clock).time? c.type).isSome ↔
      ∀ e, s.find? c.type = some e → e.lastTransition.isSome ∨ e.status ≠ c.status := by
  rw [time?_set]
  cases hfind : s.find? c.type with
  | none => simp [Condition.recorded, Condition.stamped]
  | some e =>
    by_cases hstatus : e.status = c.status
    · simp [Condition.recorded, Condition.revised, hstatus]
    · simp [Condition.recorded, Condition.revised, hstatus]

end Conditions

namespace Condition

variable {e : Condition} {clock : Stamp} {cs : List Condition} {status : ConditionStatus}

theorem isSome_lastFlipFrom?_iff :
    (lastFlipFrom? status cs).isSome ↔ ∃ c ∈ cs, c.status ≠ status := by
  rw [Option.isSome_iff_ne_none, ne_eq, lastFlipFrom?_eq_none_iff]
  push Not
  rfl

/-- An entry has a time if it had one or if something differs from its status. -/
theorem isSome_lastTransition_revisedAll_iff :
    (e.revisedAll clock cs).lastTransition.isSome ↔
      e.lastTransition.isSome ∨ ∃ c ∈ cs, c.status ≠ e.status := by
  rw [lastTransition_revisedAll, ← isSome_lastFlipFrom?_iff]
  cases lastFlipFrom? e.status cs with
  | none => simp
  | some flip => simp

end Condition

namespace StatusUpdate

variable (u : StatusUpdate) {s : Conditions} {clock : Stamp} {type : String}

theorem find?_conditionsAfter_of_setsType (hsets : u.setsType type = true) :
    (u.conditionsAfter clock s).find? type =
      Condition.recordedAll clock (s.find? type) (u.conditions.filter (·.type = type)) := by
  rw [find?_conditionsAfter, if_neg]
  intro hstale
  have hnot := (u.mem_stale_iff.1 hstale).2.2
  rw [hsets] at hnot
  cases hnot

theorem isSome_time?_conditionsAfter_iff (hsets : u.setsType type = true) :
    ((u.conditionsAfter clock s).time? type).isSome ↔
      ∀ e, s.find? type = some e →
        e.lastTransition.isSome ∨ ∃ c ∈ u.conditions, c.type = type ∧ c.status ≠ e.status := by
  obtain ⟨c, hc, hctype⟩ := u.setsType_iff.1 hsets
  have hmem (d : Condition) :
      d ∈ u.conditions.filter (·.type = type) ↔ d ∈ u.conditions ∧ d.type = type := by simp
  rw [Conditions.time?, u.find?_conditionsAfter_of_setsType hsets]
  cases hset : u.conditions.filter (·.type = type) with
  | nil =>
    have hin := (hmem c).2 ⟨hc, hctype⟩
    rw [hset] at hin
    cases hin
  | cons d ds =>
    rw [Condition.recordedAll_cons, Option.bind_some,
      Condition.isSome_lastTransition_revisedAll_iff, ← hset]
    cases hfind : s.find? type with
    | none => simp [Condition.stamped]
    | some e => simp [and_assoc]

/-- After a condition is recorded its type has a transition time exactly if it was not there without
one in the same status. After an update a type that the update sets has one exactly if it was not
there without one in the only status that the update gives it, and if the write succeeds then what
is stored is what the state holds. -/
theorem isSome_time?_iff (s : Conditions) (c : Condition) (clock : Stamp) (u : StatusUpdate)
    (span : Option Span) (ctx : Context) (state : State) (m : Moment) (w : World) :
    (((s.set c clock).time? c.type).isSome ↔
        ∀ e, s.find? c.type = some e → e.lastTransition.isSome ∨ e.status ≠ c.status) ∧
      let before := state.object
      let after := (u.apply span ctx state m w).1.state.object
      let changed := { before with conditions := after.conditions }
      (∀ type, u.setsType type = true →
        ((after.conditions.time? type).isSome ↔
          ∀ e, before.conditions.find? type = some e → e.lastTransition.isSome ∨
            ∃ c ∈ u.conditions, c.type = type ∧ c.status ≠ e.status)) ∧
      ∀ written, (w.store.update changed).1 = .ok written →
        (w.store.update changed).2.get? after.key = some after := by
  refine ⟨Conditions.isSome_time?_set_iff, ?_⟩
  intro before after changed
  have hconditions : after.conditions = u.conditionsAfter m.clock before.conditions :=
    u.conditions_apply span ctx state m w
  constructor
  · intro type hsets
    rw [hconditions]
    exact u.isSome_time?_conditionsAfter_iff hsets
  · intro written hwritten
    have hchanged : u.objectAfter m.clock before = changed := by
      change _ = { before with conditions := after.conditions }
      rw [hconditions]
      rfl
    have hafter : after = written := by
      have hobject := u.object_apply span ctx state m w
      rw [hchanged, hwritten] at hobject
      exact hobject
    obtain rfl := Store.eq_advanced_of_update hwritten
    rw [hafter, Store.get?_update, hwritten, Object.key_advanced]
    exact if_pos rfl

/-- A condition that was read without a transition time and is recorded again as it is, and the
update that does this to an object: both writes succeed, and no time is ever recorded. -/
theorem time?_of_read_without_time :
    let ready : Condition := { type := "Ready", status := .affirmed }
    let item : Json := .record [("type", .text "Ready"), ("status", .text "True")]
    let object : Object := ⟨"Lease", { name := "a" }, .ofList [ready], ""⟩
    let u : StatusUpdate := { conditions := [ready] }
    let first := u.apply none (.background none) { object } ⟨⟨0⟩, .read 1⟩
      { store := Store.insert ∅ object }
    let second := u.apply none (.background none) first.1.state ⟨⟨0⟩, .read 2⟩ first.2
    Wire.decodeConditions (.array [item]) = some object.conditions ∧
      ((object.conditions.set ready (.read 1)).find? ready.type).map (·.lastTransition) =
        some none ∧
      first.1.signal = u.successSignal ∧ second.1.signal = u.successSignal ∧
      second.1.state.object.conditions.time? ready.type = none ∧
      (second.2.store.get? object.key).map (·.conditions.time? ready.type) = some none := by
  decide +kernel

/-- An entry without a time gets one from an update that takes its status back and forth. -/
theorem isSome_time?_iff_flipping :
    let denied : Condition := { type := "Ready", status := .denied }
    let object : Object := ⟨"Lease", { name := "a" }, .ofList [denied], ""⟩
    let store := Store.insert ∅ object
    let after := (flipping.apply none (.background none) { object } ⟨⟨0⟩, .read 1⟩
      { store }).1.state.object
    let changed := { object with conditions := after.conditions }
    flipping.setsType "Ready" = true ∧ (after.conditions.time? "Ready").isSome ∧
      (store.update changed).1 = .ok after ∧
      (store.update changed).2.get? after.key = some after := by
  intro denied object store after changed
  have hsets : flipping.setsType "Ready" = true := by decide
  have hfind : object.conditions.find? "Ready" = some denied := by decide +kernel
  have hwritten : (store.update changed).1 = .ok after := by decide +kernel
  obtain ⟨-, htimes, hstored⟩ := isSome_time?_iff ∅ denied (.read 1) flipping none
    (.background none) { object } ⟨⟨0⟩, .read 1⟩ { store }
  refine ⟨hsets, (htimes "Ready" hsets).2 ?_, hwritten, hstored after hwritten⟩
  intro e he
  rw [hfind] at he
  cases he
  exact .inr ⟨{ type := "Ready", status := .affirmed }, by decide, rfl, by decide⟩

end StatusUpdate

end ControlLoop
