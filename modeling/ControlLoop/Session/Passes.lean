import ControlLoop.Reconciler
import ControlLoop.Session.Pipelines
import ControlLoop.Session.Stores

/-!
# Sessions with a reconciler

Passes over given or stored objects, one at a time or side by side, between which the store, the
failure counts, the handles and the clock can be changed.
-/

namespace ControlLoop

inductive PassOp where
  | pass (source : ObjectSource) (parent : Option (List Script.ContextEffect))
  | passAll (objects : List Object)
  | count (key : ObjectKey)
  | forget (key : ObjectKey)
  | insert (o : Object)
  | remove (key : ObjectKey)
  | failNext (e : Error)
  | advance (d : Duration)
  | cancel (handle : String)

inductive PassAnswer where
  | nothing
  /-- There was no such object. -/
  | absent
  | outcome (o : Outcome) (stored : Option Object)
  | outcomes (list : List (ObjectKey × Outcome))
  | count (n : UInt32)
  | found (b : Bool)

/-- What can be seen between two operations. -/
structure PassView where
  failing : List (ObjectKey × UInt32)
  writes : UInt64

structure PassSession where
  session : Session
  reconciler : Reconciler

namespace StateFactory

/-- Takes the object as it is and starts with an empty bag. -/
def base : StateFactory := fun _ o ↦ pure (.ok { object := o })

/-- Fails, with a note, for the objects of some specifications. -/
def failingFor (failures : List (String × Error)) : StateFactory := fun ctx o ↦
  match failures.find? (·.1 = o.spec) with
  | none => base ctx o
  | some (_, e) => do
    Act.leave (.effect "factory" [.number ctx.fields.size])
    return .error e

end StateFactory

/-- Why a session with a reconciler does not start. -/
inductive PassSessionError where
  | action (e : Error)
  | config (e : ConfigError)

namespace PassSession

/-- The action is built before the configuration is checked. -/
def start (objects : List Object) (plan : Script.Plan) (failures : List (String × Error))
    (config : Config) : Except PassSessionError PassSession :=
  match PipelineSession.build (.ofObjects objects) plan with
  | (.error e, _) => .error (.action e)
  | (.ok pipeline, session) =>
    match Reconciler.make pipeline.action (.failingFor failures) config with
    | .error e => .error (.config e)
    | .ok reconciler => .ok ⟨session, reconciler⟩

variable (s : PassSession)

def view : PassView :=
  let w := s.session.world
  { failing := w.failures.failing.map fun key ↦ (key, w.failures.count key)
    writes := w.store.writes }

/-- A pass over an object, under a parent context if one is described. -/
def pass (o : Object) : Option (List Script.ContextEffect) → Run Outcome
  | none => s.reconciler.reconcile o
  | some effects => do
    let parent ← Script.ContextEffect.performAll none (.background none) effects
    s.reconciler.reconcileWith parent o

def changeWorld (change : World → World) : PassSession :=
  { s with session := { s.session with world := change s.session.world } }

/-- The answer to an operation; nothing if it waits for what never comes. -/
def perform : PassOp → Option (PassAnswer × PassSession)
  | .pass source parent =>
    match source.find? s.session.world.store with
    | none => some (.absent, s)
    | some o => do
      let (outcome, session) ← s.session.settle (s.pass o parent)
      return (.outcome outcome (session.world.store.get? o.key), { s with session })
  | .passAll objects => do
    let (outcomes, session) ← s.session.settle (s.reconciler.reconcileAll objects)
    return (.outcomes outcomes, { s with session })
  | .count key => some (.count (s.session.world.failures.count key), s)
  | .forget key => some (.nothing, { s with session := (s.session.act (Reconciler.forget key)).2 })
  | .insert o => some (.nothing, { s with session := s.session.changeStore (·.insert o) })
  | .remove key =>
    some (.found (s.session.world.store.get? key).isSome,
      { s with session := s.session.changeStore (·.remove key) })
  | .failNext e => some (.nothing, { s with session := s.session.changeStore (·.failNext e) })
  | .advance d => some (.nothing, { s with session := s.session.advance d })
  | .cancel handle =>
    some (.nothing, s.changeWorld fun w ↦ { w with handles := w.handles.cancel handle })

def report : TurnReport × PassSession :=
  let (report, session) := s.session.report
  (report, { s with session })

def performAll (s : PassSession) : List PassOp → List (PassAnswer × PassView × TurnReport)
  | [] => []
  | op :: ops =>
    match perform { s with session := s.session.nextTurn } op with
    | none => []
    | some (answer, s) =>
      let (report, next) := s.report
      (answer, s.view, report) :: performAll next ops

end PassSession

end ControlLoop
