import ControlLoop.Run.Wait
import ControlLoop.Script.Effect
import ControlLoop.Session.Basic

/-!
# Sessions with contexts

Contexts are made under names, from the background or from one another; their handles are used, and
their end is awaited for a limited time while a handle may be used after a delay.
-/

namespace ControlLoop

inductive HandleUse where
  | cancel (handle : String)
  | drop (handle : String)

inductive ContextOp where
  | make (name : String) (source : Option String) (effects : List Script.ContextEffect)
  | report (name : String)
  | field (name key : String)
  | cancel (handle : String)
  | dropHandle (handle : String)
  | isHandleCancelled (handle : String)
  | advance (d : Duration)
  | await (name : String) (limit : Duration) (meanwhile : Option (Duration × HandleUse))

inductive ContextAnswer where
  | nothing
  | report (r : ContextReport)
  | field (value : Option FieldValue)
  | flag (b : Bool)
  | ended (e : Option Error) (elapsed : Duration)

structure ContextSession where
  session : Session := {}
  contexts : Std.ExtTreeMap String Context := ∅

namespace HandleUse

def perform (u : HandleUse) : Act Unit :=
  modify fun w ↦ { w with handles :=
    match u with
    | .cancel handle => w.handles.cancel handle
    | .drop handle => w.handles.drop handle }

end HandleUse

namespace Run

/-- Waits at most for the limit, and tells when the wait ended. -/
def awaitWithin (limit : Duration) (ctx : Context) : Run (Option Error × Duration) := fun m w ↦
  let due := (m.now.after? limit).getD (m.now.after (.ofSeconds (30 * 365 * 86400) 0))
  let wait : Run (Option Error × Duration) := do
    -- of a token and a timer that are found by the same look either may be told: here the timer
    let e ← (awaitDone true ctx).before due
    return (e, (← (read : Act Moment)).now.elapsed)
  wait m w

def meanwhile : Option (Duration × HandleUse) → Run Unit
  | none => return ()
  | some (d, u) => do
    sleep d
    u.perform

end Run

namespace ContextSession

variable (s : ContextSession)

def context (name : String) : Context := s.contexts.getD name (.background none)

def reportOn (name : String) : ContextAnswer :=
  .report ((s.context name).report s.session.now s.session.world.handles)

def changeHandles (change : Handles → Handles) : ContextSession :=
  let w := s.session.world
  { s with session := { s.session with world := { w with handles := change w.handles } } }

/-- The answer to an operation; nothing if it waits for what never comes. -/
def perform : ContextOp → Option (ContextAnswer × ContextSession)
  | .make name source effects =>
    let start := (source.map s.context).getD (.background none)
    let (ctx, session) := s.session.act (Script.ContextEffect.performAll none start effects)
    let s := { session, contexts := s.contexts.insert name ctx : ContextSession }
    some (s.reportOn name, s)
  | .report name => some (s.reportOn name, s)
  | .field name key => some (.field (s.context name).fields[key]?, s)
  | .cancel handle => some (.nothing, s.changeHandles (·.cancel handle))
  | .dropHandle handle =>
    some (.flag (s.session.world.handles.isHeld handle), s.changeHandles (·.drop handle))
  | .isHandleCancelled handle =>
    some (.flag (s.session.world.handles.isHandleCancelled handle), s)
  | .advance d => some (.nothing, { s with session := s.session.advance d })
  | .await name limit meanwhile => do
    let (((e, elapsed), _), session) ←
      s.session.settle ((Run.awaitWithin limit (s.context name)).both (Run.meanwhile meanwhile))
    return (.ended e elapsed, { s with session })

/-- The answers of operations one after the other, each with the time at its end. -/
def performAll (s : ContextSession) : List ContextOp → List (ContextAnswer × Duration)
  | [] => []
  | op :: ops =>
    match s.perform op with
    | none => []
    | some (answer, s) => (answer, s.session.now.elapsed) :: performAll s ops

end ContextSession

end ControlLoop
