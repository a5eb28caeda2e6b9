import ControlLoop.Proofs.Condition.Flips
import ControlLoop.Proofs.StatusUpdate.Repetition

/-!
# The result of a status update

What an update leaves of an object does not depend on how the write ends. The kept conditions come
first, in the order in which they were, and then the types that are new, in the order in which the
update first names them. A condition of a type that the update does not name is left alone; of
several configured conditions of one type the last one decides. Nothing else of the object changes
but the version, which a successful write moves on.
-/

namespace ControlLoop

namespace Condition

variable {e c : Condition} {clock : Stamp} {cs : List Condition}

/-- The last condition recorded decides everything but the type and the transition time. -/
theorem differs_revisedAll_of_getLast? (h : cs.getLast? = some c) :
    (e.revisedAll clock cs).differs c = false := by
  obtain ⟨init, rfl⟩ := List.getLast?_eq_some_iff.1 h
  rw [revisedAll_concat]
  simp [differs, revised]

end Condition

namespace StatusUpdate

variable (u : StatusUpdate) {s : Conditions} {clock : Stamp} {type : String} {e : Condition}

def keepsOrSets (type : String) : Bool := u.retention.keeps type || u.setsType type

/-- The types that the update adds to a set, in the order in which it first names them. -/
def newTypes (s : Conditions) : List String :=
  ((u.conditions.map Condition.type).filter (· ∉ s.types)).eraseDups

/-- Of the configured conditions of a type the last one. -/
def last? (type : String) : Option Condition :=
  (u.conditions.filter (·.type = type)).getLast?

/-- How the conditions `after` an update come from those before it. -/
structure Updates (before after : Conditions) : Prop where
  types_eq : after.types = before.types.filter u.keepsOrSets ++ u.newTypes before
  nodup : after.types.Nodup
  unnamed : ∀ e ∈ after.entries, u.setsType e.type = false → e ∈ before.entries
  named : ∀ e ∈ after.entries, u.setsType e.type = true → ∃ c, u.last? e.type = some c ∧
    e.status = c.status ∧ e.reason = c.reason ∧ e.message = c.message ∧
    e.observedGeneration = c.observedGeneration

theorem setsType_eq_isSome_last? : u.setsType type = (u.last? type).isSome := by
  rw [Bool.eq_iff_iff, setsType_iff, last?, List.getLast?_isSome]
  simp

/-- What is not stale stays, in its order. -/
theorem types_removeAll_stale :
    (s.removeAll (u.stale s)).types = s.types.filter u.keepsOrSets := by
  rw [Conditions.types_removeAll]
  apply List.filter_congr
  intro type htype
  rw [Bool.eq_iff_iff, decide_eq_true_eq, mem_stale_iff, keepsOrSets, Bool.or_eq_true]
  grind

/-- The types that stay come first, in their order, and then those that are new. -/
theorem types_conditionsAfter :
    (u.conditionsAfter clock s).types = s.types.filter u.keepsOrSets ++ u.newTypes s := by
  have hnew : (u.conditions.map Condition.type).filter (· ∉ s.types.filter u.keepsOrSets) =
      (u.conditions.map Condition.type).filter (· ∉ s.types) := by
    apply List.filter_congr
    intro type htype
    have hsets : u.setsType type = true := u.setsType_iff.2 (by simpa using htype)
    simp [keepsOrSets, hsets]
  rw [conditionsAfter, Conditions.types_setAll, types_removeAll_stale, hnew, newTypes]

theorem find?_conditionsAfter :
    (u.conditionsAfter clock s).find? type =
      Condition.recordedAll clock (if type ∈ u.stale s then none else s.find? type)
        (u.conditions.filter (·.type = type)) := by
  rw [conditionsAfter, Conditions.find?_setAll, Conditions.find?_removeAll]

/-- An entry of a type that the update does not set is untouched. -/
theorem mem_of_setsType_eq_false (he : e ∈ (u.conditionsAfter clock s).entries)
    (hsets : u.setsType e.type = false) : e ∈ s.entries := by
  have hnone : u.conditions.filter (·.type = e.type) = [] := by
    rw [setsType_eq_isSome_last?, last?] at hsets
    simpa using hsets
  have hfind := Conditions.find?_of_mem he
  rw [find?_conditionsAfter, hnone] at hfind
  change (if e.type ∈ u.stale s then none else s.find? e.type) = some e at hfind
  split at hfind
  · exact nomatch hfind
  · exact List.mem_of_find?_eq_some hfind

theorem exists_last_of_setsType (he : e ∈ (u.conditionsAfter clock s).entries)
    (hsets : u.setsType e.type = true) :
    ∃ c, u.last? e.type = some c ∧ e.differs c = false := by
  rw [setsType_eq_isSome_last?] at hsets
  obtain ⟨c, hc⟩ := Option.isSome_iff_exists.1 hsets
  refine ⟨c, hc, ?_⟩
  have hfind := Conditions.find?_of_mem he
  rw [find?_conditionsAfter] at hfind
  unfold last? at hc
  generalize u.conditions.filter (·.type = e.type) = cs at hc hfind
  cases cs with
  | nil => exact nomatch hc
  | cons d ds =>
    rw [Condition.recordedAll_cons, Option.some.injEq] at hfind
    rw [← hfind]
    exact Condition.differs_revisedAll_of_getLast? hc

/-- The conditions after an update are what it should make of those before. -/
theorem updates_conditionsAfter : u.Updates s (u.conditionsAfter clock s) where
  types_eq := u.types_conditionsAfter
  nodup := (u.conditionsAfter clock s).nodup
  unnamed _ he hsets := u.mem_of_setsType_eq_false he hsets
  named e he hsets := by
    obtain ⟨c, hc, hsame⟩ := u.exists_last_of_setsType he hsets
    refine ⟨c, hc, ?_⟩
    simpa [Condition.differs, and_assoc] using hsame

/-- However the write ends, an update leaves the object as it was but for the conditions, which it
updates, and for the version, which the write moves on if it succeeds. -/
theorem updates_apply (span : Option Span) (ctx : Context) (state : State) (m : Moment)
    (w : World) :
    let before := state.object
    let after := (u.apply span ctx state m w).1.state.object
    let changed := { before with conditions := after.conditions }
    u.Updates before.conditions after.conditions ∧
      ((∃ e, (w.store.update changed).1 = .error e) ∧ after = changed ∨
        (w.store.update changed).1 = .ok changed.advanced ∧ after = changed.advanced) := by
  intro before after changed
  have hconditions : after.conditions = u.conditionsAfter m.clock before.conditions :=
    u.conditions_apply span ctx state m w
  have hchanged : changed = u.objectAfter m.clock before := by
    change { before with conditions := after.conditions } = _
    rw [hconditions]
    rfl
  have hafter := u.object_apply span ctx state m w
  rw [← hchanged] at hafter
  constructor
  · rw [hconditions]
    exact u.updates_conditionsAfter
  · cases hanswer : (w.store.update changed).1 with
    | error e =>
      rw [hanswer] at hafter
      exact .inl ⟨⟨e, rfl⟩, hafter⟩
    | ok written =>
      obtain rfl := Store.eq_advanced_of_update hanswer
      rw [hanswer] at hafter
      exact .inr ⟨rfl, hafter⟩

end StatusUpdate

end ControlLoop
