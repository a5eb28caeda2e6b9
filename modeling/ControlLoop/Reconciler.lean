import ControlLoop.Action.Basic
import ControlLoop.Outcome

/-!
# Reconciling objects

A pass builds the state of an object, runs the action on it up to the deadline that its context had
before, and records how it ended under the key that the object had at the start. Several objects are
reconciled side by side, each by a pass of its own.
-/

namespace ControlLoop

/-- Builds the state of a pass from the object as it was fetched. -/
abbrev StateFactory := Context → Object → Run (Except Error State)

structure Reconciler where
  action : Action
  factory : StateFactory
  config : Config

namespace Act

/-- Counts the end of a pass: a propagated error adds a failure, all else starts again. -/
def countFailures (key : ObjectKey) (s : Signal) : Act UInt32 := do
  let w ← get
  match s with
  | .propagate _ =>
    set { w with failures := w.failures.recordFailure key }
    return w.failures.next key
  | _ =>
    set { w with failures := w.failures.clear key }
    return 0

def logOutcome (failures : UInt32) : Outcome → Act Unit
  | .done => log .converged
  | .requeue after => log (.requeueRequested after)
  | .failed e retryAfter => log (.passFailed e failures e.isRetryable retryAfter)

/-- Records the signal at the end of a pass. -/
def record (config : Config) (key : ObjectKey) (s : Signal) : Act Outcome := do
  let failures ← countFailures key s
  let outcome := Outcome.ofSignal config failures s
  logOutcome failures outcome
  return outcome

end Act

namespace Reconciler

/-- A reconciler whose configuration is in range. -/
def make (action : Action) (factory : StateFactory) (config : Config) :
    Except ConfigError Reconciler := do
  config.validate
  return ⟨action, factory, config⟩

variable (r : Reconciler)

/-- The context of a pass that starts now under a parent. -/
def passContext (parent : Context) (now : Instant) : Context :=
  let ctx := (parent.withSpan (some .pass)).withField "pass_id" .passId
  match r.config.passLimit with
  | some limit => ctx.withTimeout now limit
  | none => ctx

/-- The signal of the action, abandoned when the context's deadline passes while it waits. -/
def runBounded (ctx : Context) (state : State) : Run Signal :=
  let signal := (·.signal) <$> r.action.run (some .pass) ctx state
  match ctx.deadline with
  | none => signal
  | some due => (·.getD (.propagate .deadlineExceeded)) <$> signal.before due

/-- The signal at the end of a pass in its context. -/
def passSignal (ctx : Context) (o : Object) : Run Signal := do
  match ← r.factory ctx o with
  | .ok state => r.runBounded ctx state
  | .error e =>
    Act.log (.stateFailed e)
    return .propagate e

/-- A pass derived from a parent context. -/
def reconcileWith (parent : Context) (o : Object) : Run Outcome := do
  Act.log (.passOpened o.kind o.key parent.span)
  let ctx := r.passContext parent (← (read : Act Moment)).now
  Act.log (.passStarted r.action.name)
  let signal ← r.passSignal ctx o
  Act.record r.config o.key signal

/-- A pass of its own, outside of any span. -/
def reconcile (o : Object) : Run Outcome := r.reconcileWith (.background none) o

/-- A pass for every object, side by side, with the outcomes in order. -/
def reconcileAll (objects : List Object) : Run (List (ObjectKey × Outcome)) :=
  Run.all (objects.map fun o ↦ (o.key, ·) <$> r.reconcile o)

def forget (key : ObjectKey) : Act Unit :=
  modify fun w ↦ { w with failures := w.failures.clear key }

end Reconciler

end ControlLoop
