import ControlLoop.Script.Test
import ControlLoop.Script.Update

/-!
# Effects of a step

An effect changes the context and the state that a step works on, or the world, and leaves on the
trail what it found. An effect may end the step with a signal.
-/

namespace ControlLoop.Script

/-- How a step stands after some of its effects: the signal that ended it, if one did, and what it
works on. -/
structure Stage where
  ended : Option Signal := none
  ctx : Context
  state : State

namespace Stage

variable (s : Stage)

def withObject (o : Object) : Stage := { s with state := { s.state with object := o } }

def withMetadata (m : Metadata) : Stage := s.withObject { s.state.object with metadata := m }

def endWith (signal : Signal) : Stage := { s with ended := some signal }

/-- Ends at a signal that is terminal. -/
def endIfTerminal (signal : Signal) : Stage := if signal.isTerminal then s.endWith signal else s

/-- The stage that a reply leads to. -/
def ofReply (r : Reply) : Stage := Stage.endIfTerminal ⟨none, r.ctx, r.state⟩ r.signal

end Stage

/-- Leaves what an effect found, if it found anything. -/
def leaveFinding (name : String) : Finding → Act Unit
  | .nothing => return ()
  | finding => Act.leave (.effect name [finding])

/-- The effects that take no time and start no other action. -/
def Effect.performAtOnce (span : Option Span) (s : Stage) : Effect → Act Stage
  | .context e => return { s with ctx := ← e.perform span s.ctx }
  | .bag e => do
    let (finding, changed) := e.perform s.state.bag
    leaveFinding e.name finding
    return { s with state := { s.state with bag := changed } }
  | .addFinalizer finalizer => do
    let m := s.state.object.metadata
    leaveFinding "add_finalizer" (.flag (!m.hasFinalizer finalizer))
    return s.withMetadata (m.addFinalizer finalizer)
  | .removeFinalizer finalizer => do
    let m := s.state.object.metadata
    leaveFinding "remove_finalizer" (.flag (m.hasFinalizer finalizer))
    return s.withMetadata (m.removeFinalizer finalizer)
  | .hasFinalizer finalizer => do
    leaveFinding "has_finalizer" (.flag (s.state.object.metadata.hasFinalizer finalizer))
    return s
  | .setCondition c => do
    let o := s.state.object
    leaveFinding "set_condition" (.flag (o.conditions.setChanges c))
    return s.withObject { o with conditions := o.conditions.set c (← read).clock }
  | .removeCondition type => do
    let o := s.state.object
    leaveFinding "remove_condition" (.flag (o.conditions.contains type))
    return s.withObject { o with conditions := o.conditions.remove type }
  | .markDeleted time =>
    return s.withMetadata { s.state.object.metadata with deletion := some time }
  | .setVersion version => return s.withObject (s.state.object.withVersion version)
  | .setSpec value => return s.withObject { s.state.object with spec := value }
  | .rename name => return s.withMetadata { s.state.object.metadata with name }
  | .field name => do
    leaveFinding "field" ((s.ctx.fields[name]?.map Finding.field).getD .nothing)
    return s
  | .reportContext => do
    leaveFinding "ctx" (.context (s.ctx.report (← read).now (← get).handles))
    return s
  | .reportKey => do
    leaveFinding "key" (.text s.state.object.key.text)
    return s
  | .cancel handle => do
    modify fun w ↦ { w with handles := w.handles.cancel handle }
    return s
  | .dropHandle handle => do
    leaveFinding "drop_handle" (.flag ((← get).handles.isHeld handle))
    modify fun w ↦ { w with handles := w.handles.drop handle }
    return s
  | .returnIf t signal => do
    let w ← get
    let (holds, notes) :=
      t.predicate.eval ⟨s.ctx, s.state, (← read).now, w.handles⟩
    Act.leaveAll notes
    return if holds then s.endWith signal else s
  | .logFailure e message signal => return s.endWith (← Act.logFailure s.ctx message e signal)
  | .failNext e => do
    modify fun w ↦ { w with store := w.store.failNext e }
    return s
  | .storeInsert o => do
    modify fun w ↦ { w with store := w.store.insert o }
    return s
  | .storeRemove key => do
    leaveFinding "store_remove" (.flag ((← get).store.get? key).isSome)
    modify fun w ↦ { w with store := w.store.remove key }
    return s
  | .persist => do
    match ← Act.persist s.state.object with
    | .ok written =>
      leaveFinding "persist" (.text "ok")
      return s.withObject written
    | .error e =>
      leaveFinding "persist" (.error e)
      return s.endWith (.propagate e)
  | .update calls => do
    let reply ← (UpdateCall.options calls).run span s.ctx s.state
    leaveFinding "update" (.signal reply.signal)
    return .ofReply reply
  | .sleep _ | .awaitDone | .run _ => return s

end ControlLoop.Script
