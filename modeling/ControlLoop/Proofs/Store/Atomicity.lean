import ControlLoop.Proofs.StatusUpdate.Application
import ControlLoop.Script.Perform
import ControlLoop.Session.Stores

/-!
# Atomicity of writes

A write either goes through or fails, and a failed one has no effect: the writer's copy, what is
stored and the number of writes are as they were, and only a queued failure is used up. Of several
reasons to fail the first one counts, in this order: a failure is queued, nothing is stored under
the object's key, what is stored there is at another version.

Those who write an object go on with the copy that the answer leaves them.
-/

namespace ControlLoop

/-- The copy that a writer of the object goes on with after the answer. -/
def Object.heldAfter (o : Object) : Except Error Object → Object
  | .ok written => written
  | .error _ => o

namespace Store

/-- The write of an object got the answer, left its writer the copy `held`, and left the store
`after`, all or nothing. -/
structure Atomic (s : Store) (o : Object) (answer : Except Error Object) (held : Object)
    (after : Store) : Prop where
  fails_iff : (∃ e, answer = .error e) ↔
    s.failures ≠ [] ∨ s.get? o.key = none ∨
      ∃ stored, s.get? o.key = some stored ∧ stored.version ≠ o.version
  injected : ∀ e rest, s.failures = e :: rest → answer = .error e
  missing : s.failures = [] → s.get? o.key = none →
    answer = .error (.objectNotFound o.key.text)
  conflict : ∀ stored, s.failures = [] → s.get? o.key = some stored →
    stored.version ≠ o.version →
    answer = .error (.conflict o.key.text stored.version o.version)
  /-- A queue that is empty stays so. -/
  failures : after.failures = s.failures.tail
  failed : ∀ e, answer = .error e →
    held = o ∧ after.objects = s.objects ∧ after.writes = s.writes
  succeeded : ∀ written, answer = .ok written →
    held = written ∧ written = o.withVersion written.version ∧
      written.version.toNat = min (o.version.toNat + 1) (UInt64.size - 1) ∧
      (∀ key, after.get? key = if o.key = key then some written else s.get? key) ∧
      after.writes.toNat = min (s.writes.toNat + 1) (UInt64.size - 1)

/-- An update is atomic for every store and every object. -/
theorem atomic_update (s : Store) (o : Object) :
    s.Atomic o (s.update o).1 (o.heldAfter (s.update o).1) (s.update o).2 where
  fails_iff := update_fails_iff
  injected e rest hfailures := by rw [update_of_queued hfailures]
  missing hfailures hstored := by rw [update_of_not_stored hfailures hstored]
  conflict stored hfailures hstored hversion := by
    rw [update_of_version_ne hfailures hstored hversion]
  failures := s.failures_update_eq_tail o
  failed e h := by
    rw [h]
    exact ⟨rfl, objects_update_of_error h⟩
  succeeded written h := by
    obtain rfl := eq_advanced_of_update h
    refine ⟨by rw [h]; rfl, rfl, o.toNat_version_advanced, fun key ↦ ?_,
      toNat_writes_update_of_ok h⟩
    rw [get?_update, h]

end Store

namespace Script.Stage

variable (stage : Stage)

/-- The stage after the answer to a write of its object. -/
def answered (answer : Except Error Object) : Stage :=
  match answer with
  | .ok written => stage.withObject written
  | .error e => stage.endWith (.propagate e)

theorem object_answered (answer : Except Error Object) :
    (stage.answered answer).state.object = stage.state.object.heldAfter answer := by
  cases answer <;> rfl

theorem performAtOnce_persist (span : Option Span) (m : Moment) (w : World) :
    (Effect.performAtOnce span stage .persist m w).1 =
        stage.answered (w.store.update stage.state.object).1 ∧
      (Effect.performAtOnce span stage .persist m w).2.store =
        (w.store.update stage.state.object).2 := by
  simp only [Effect.performAtOnce, bind, ReaderT.bind, StateT.bind, Act.persist_eq]
  cases (w.store.update stage.state.object).1 with
  | ok written => exact ⟨rfl, rfl⟩
  | error e => exact ⟨rfl, rfl⟩

end Script.Stage

namespace StoreSession

/-- What a client is told about a write of its copy. -/
def writeAnswer (o : Object) (answer : Except Error Object) : StoreAnswer :=
  match answer with
  | .ok written => .written none written
  | .error e => .written (some e) o

/-- A client that writes its copy keeps what the answer leaves it. -/
theorem perform_update {t : StoreSession} {name : String} {o : Object}
    (h : t.copies[name]? = some o) :
    let answer := (t.store.update o).1
    let result := t.perform (.update name)
    result.1 = writeAnswer o answer ∧ result.2.copies[name]? = some (o.heldAfter answer) ∧
      result.2.store = (t.store.update o).2 := by
  have hstore : (t.session.act (Act.persist o)).2.world.store = (t.store.update o).2 :=
    Act.store_persist o t.session.moment t.session.world
  intro answer
  have hact : t.session.act (Act.persist o) = (answer, (t.session.act (Act.persist o)).2) :=
    Prod.ext (Act.persist_fst o t.session.moment t.session.world) rfl
  intro result
  simp only [result, perform, h]
  rw [hact]
  cases answer with
  | ok written => exact ⟨rfl, Std.ExtTreeMap.getElem?_insert_self, hstore⟩
  | error e => exact ⟨rfl, h, hstore⟩

end StoreSession

namespace Store

/-- A write is all or nothing, for the store and for a step that writes the object of its pass. -/
theorem update_atomic (s : Store) (o : Object) :
    s.Atomic o (s.update o).1 (o.heldAfter (s.update o).1) (s.update o).2 ∧
      ∀ span (stage : Script.Stage) m (w : World),
        let result := Script.Effect.performAtOnce span (stage.withObject o) .persist m
          { w with store := s }
        result.1 = (stage.withObject o).answered (s.update o).1 ∧
          s.Atomic o (s.update o).1 result.1.state.object result.2.store := by
  refine ⟨s.atomic_update o, fun span stage m w ↦ ?_⟩
  intro result
  obtain ⟨hstage, hstore⟩ :=
    (stage.withObject o).performAtOnce_persist span m { w with store := s }
  refine ⟨hstage, ?_⟩
  rw [hstage, hstore, Script.Stage.object_answered]
  exact s.atomic_update o

end Store

end ControlLoop
