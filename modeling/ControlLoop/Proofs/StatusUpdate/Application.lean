import ControlLoop.Proofs.Action.Visit
import ControlLoop.Proofs.Condition.Recording
import ControlLoop.Proofs.Store.Update
import ControlLoop.StatusUpdate.Basic

/-!
# Applying a status update

An update is one write and the response to it. It leaves the object as it is stored if the write
succeeds, and the object with the configured conditions if it fails, so either way the object has
the conditions of the update at the time the clock showed.
-/

namespace ControlLoop

/-- The world after a write of the object, which is logged if it succeeds. -/
def World.afterWrite (w : World) (o : Object) : World :=
  { w with
    store := (w.store.update o).2
    log := w.log ++
      match (w.store.update o).1 with
      | .ok written => [.persisted written.key written.version]
      | .error _ => [] }

namespace Act

variable (o : Object) (m : Moment) (w : World)

/-- A write reaches the store and the log. -/
theorem persist_eq : persist o m w = ((w.store.update o).1, w.afterWrite o) := by
  simp only [persist, bind, ReaderT.bind, StateT.bind, get, getThe, MonadStateOf.get, liftM,
    monadLift, MonadLift.monadLift, StateT.get, pure, World.afterWrite]
  cases hwrite : w.store.update o with
  | mk answer store =>
    cases answer with
    | error e =>
      dsimp only
      rw [List.append_nil]
      rfl
    | ok written => rfl

theorem persist_fst : (persist o m w).1 = (w.store.update o).1 := by
  rw [persist_eq]

/-- A write of an object does to the store what an update of it does. -/
theorem store_persist : (persist o m w).2.store = (w.store.update o).2 := by
  rw [persist_eq]
  rfl

/-- A write of an object leaves the failure counts. -/
theorem failures_persist : (persist o m w).2.failures = w.failures := by
  rw [persist_eq]
  rfl

theorem handles_persist : (persist o m w).2.handles = w.handles := by
  rw [persist_eq]
  rfl

end Act

namespace StatusUpdate

variable (u : StatusUpdate) (span : Option Span) (ctx : Context) (state : State) (m : Moment)
  (w : World)

/-- The world in which the status of an object is written. -/
def noted (o : Object) (w : World) : World :=
  if (u.stale o.conditions).isEmpty then w
  else w.logged (.staleRemoved o.key (u.stale o.conditions))

theorem store_noted (o : Object) : (u.noted o w).store = w.store := by
  unfold noted
  split <;> rfl

theorem failures_noted (o : Object) : (u.noted o w).failures = w.failures := by
  unfold noted
  split <;> rfl

/-- What is done after a write of `object`. -/
def respond (object : Object) : Except Error Object → Act Reply
  | .error e => do
    let (signal, ctx) ← u.answerFailure span ctx object.kind e
    return ⟨signal, ctx, { state with object }⟩
  | .ok written => do
    let (signal, ctx) ← u.answerSuccess span ctx
    return ⟨signal, ctx, { state with object := written }⟩

theorem object_respond (object : Object) (answer : Except Error Object) :
    (u.respond span ctx state object answer m w).1.state.object =
      match answer with
      | .ok written => written
      | .error _ => object := by
  cases answer <;> rfl

/-- An application notes what it removes, writes the object as it has made it, and responds. -/
theorem apply_eq :
    u.apply span ctx state m w =
      (Act.persist (u.objectAfter m.clock state.object) >>=
        u.respond span ctx state (u.objectAfter m.clock state.object)) m
        (u.noted state.object w) := by
  unfold apply noted
  cases (u.stale state.object.conditions).isEmpty <;> rfl

/-- The state goes on with the written object, or with the one that could not be written. -/
theorem object_apply :
    (u.apply span ctx state m w).1.state.object =
      match (w.store.update (u.objectAfter m.clock state.object)).1 with
      | .ok written => written
      | .error _ => u.objectAfter m.clock state.object := by
  rw [apply_eq, ← store_noted u w state.object, ← Act.persist_fst _ m]
  exact u.object_respond span ctx state m _ _ _

/-- Whatever the write answers, the conditions are those that the update has made. -/
theorem conditions_apply :
    (u.apply span ctx state m w).1.state.object.conditions =
      u.conditionsAfter m.clock state.object.conditions := by
  rw [object_apply]
  cases hanswer : (w.store.update (u.objectAfter m.clock state.object)).1 with
  | error e => rfl
  | ok written =>
    rw [Store.eq_advanced_of_update hanswer, Object.conditions_advanced]
    rfl

end StatusUpdate

end ControlLoop
