import ControlLoop.Script.Plan
import ControlLoop.Session.Basic

/-!
# Sessions with a pipeline

A state, a context and an action live through the operations: the action is run on them, and each of
the three can be replaced. Effects can be performed outside of the action too.
-/

namespace ControlLoop

inductive PipelineOp where
  | run
  | perform (effects : List Script.Effect)
  /-- A new state from the stored object, by default the one under the state's key. -/
  | refetch (key : Option ObjectKey)
  | context (effects : List Script.ContextEffect)
  | action (plan : Script.Plan)
  | advance (d : Duration)
  | display
  | takeObject

inductive PipelineAnswer where
  | nothing
  | signal (s : Option Signal)
  | found (b : Bool)
  | notBuilt (e : Error)
  | text (s : String)
  | object (o : Object)

/-- What can be seen between two operations. -/
structure PipelineView where
  object : Object
  stored : Option Object
  writes : UInt64
  bagSize : Nat
  ctx : ContextReport

structure PipelineSession where
  session : Session
  state : State
  ctx : Context
  pipeline : Pipeline

namespace PipelineSession

/-- The pipeline of a plan, with the notes of building it left on the trail. -/
def build (session : Session) (plan : Script.Plan) : Except Error Pipeline × Session :=
  let (built, notes) := (Script.Plan.build plan).run []
  (built, (session.act (Act.leaveAll notes)).2)

def newContext (session : Session) (effects : List Script.ContextEffect) : Context × Session :=
  session.act (Script.ContextEffect.performAll none (.background none) effects)

def start (o : Object) (objects : List Object) (effects : List Script.ContextEffect)
    (plan : Script.Plan) : Except Error PipelineSession :=
  let (ctx, session) := newContext (.ofObjects objects) effects
  match build session plan with
  | (.ok pipeline, session) => .ok ⟨session, { object := o }, ctx, pipeline⟩
  | (.error e, _) => .error e

variable (s : PipelineSession)

def view : PipelineView :=
  let w := s.session.world
  { object := s.state.object
    stored := w.store.get? s.state.object.key
    writes := w.store.writes
    bagSize := s.state.bag.size
    ctx := s.ctx.report s.session.now w.handles }

/-- The answer to an operation; nothing if it waits for what never comes. -/
def perform : PipelineOp → Option (PipelineAnswer × PipelineSession)
  | .run => do
    let (reply, session) ← s.session.settle (s.pipeline.run none s.ctx s.state)
    return (.signal (some reply.signal), { s with session, ctx := reply.ctx, state := reply.state })
  | .perform effects => do
    let (stage, session) ←
      s.session.settle (Script.Effect.performAll none ⟨none, s.ctx, s.state⟩ effects)
    return (.signal stage.ended, { s with session, ctx := stage.ctx, state := stage.state })
  | .refetch key =>
    match s.session.world.store.get? (key.getD s.state.object.key) with
    | none => some (.found false, s)
    | some o => some (.found true, { s with state := { object := o } })
  | .context effects =>
    let (ctx, session) := newContext s.session effects
    some (.nothing, { s with session, ctx })
  | .action plan =>
    match build s.session plan with
    | (.ok pipeline, session) => some (.nothing, { s with session, pipeline })
    | (.error e, session) => some (.notBuilt e, { s with session })
  | .advance d => some (.nothing, { s with session := s.session.advance d })
  | .display => some (.text s.state.display, s)
  | .takeObject => some (.object s.state.object, { s with state := { object := s.state.object } })

def report : TurnReport × PipelineSession :=
  let (report, session) := s.session.report
  (report, { s with session })

def performAll (s : PipelineSession) :
    List PipelineOp → List (PipelineAnswer × PipelineView × TurnReport)
  | [] => []
  | op :: ops =>
    match perform { s with session := s.session.nextTurn } op with
    | none => []
    | some (answer, s) =>
      let (report, next) := s.report
      (answer, s.view, report) :: performAll next ops

end PipelineSession

end ControlLoop
