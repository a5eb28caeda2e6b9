import ControlLoop.Action.Basic
import Std.Data.ExtTreeSet.Lemmas

/-!
# Status updates

A status update brings an object's conditions to a configured set and writes the status. First it
removes every condition that is neither kept nor about to be set, then it records the configured
conditions, then it writes once. A failed write goes through the error wrapper to the error hook, or
without a hook is logged and answered with the failure signal; a successful one is answered by the
success hook or the success signal.
-/

namespace ControlLoop

inductive Retention where
  | keepOnly (types : Std.ExtTreeSet String)
  | keepAll

namespace Retention

def keeps : Retention → String → Bool
  | .keepOnly types, type => types.contains type
  | .keepAll, _ => true

/-- The kept types in ascending order, where not all are kept. -/
def types? : Retention → Option (List String)
  | .keepOnly types => some types.toList
  | .keepAll => none

/-- Whether nothing is kept, as without further instructions. -/
def isDefault (r : Retention) : Bool := r.types? == some []

end Retention

abbrev ErrorWrapper := Error → Act Error

/-- Hooks act on the context and leave it to what follows. -/
abbrev ErrorHook := Option Span → Context → Error → Act (Signal × Context)

abbrev SuccessHook := Option Span → Context → Act (Signal × Context)

structure StatusUpdate where
  conditions : List Condition := []
  retention : Retention := .keepOnly ∅
  logMessage : Option String := none
  wrapper : ErrorWrapper := pure
  onError : Option ErrorHook := none
  onSuccess : Option SuccessHook := none
  failedSignal : Signal := .requeue none
  successSignal : Signal := .forget

namespace StatusUpdate

variable (u : StatusUpdate)

def setsType (type : String) : Bool := u.conditions.any (·.type = type)

/-- The types that the update removes. -/
def stale (s : Conditions) : List String :=
  s.types.filter fun type ↦ !u.retention.keeps type && !u.setsType type

/-- The conditions after the update, recorded at the time the clock shows. -/
def conditionsAfter (clock : Stamp) (s : Conditions) : Conditions :=
  (s.removeAll (u.stale s)).setAll clock u.conditions

def objectAfter (clock : Stamp) (o : Object) : Object :=
  { o with conditions := u.conditionsAfter clock o.conditions }

def answerFailure (span : Option Span) (ctx : Context) (kind : String) (e : Error) :
    Act (Signal × Context) := do
  let e ← u.wrapper e
  match u.onError with
  | some hook => hook span ctx e
  | none =>
    let message := u.logMessage.getD ("Error updating status for " ++ kind)
    return (← Act.logFailure ctx message e u.failedSignal, ctx)

def answerSuccess (span : Option Span) (ctx : Context) : Act (Signal × Context) :=
  match u.onSuccess with
  | some hook => hook span ctx
  | none => return (u.successSignal, ctx)

def apply (span : Option Span) (ctx : Context) (state : State) : Act Reply := do
  let stale := u.stale state.object.conditions
  if !stale.isEmpty then Act.log (.staleRemoved state.object.key stale)
  let object := u.objectAfter (← read).clock state.object
  match ← Act.persist object with
  | .error e =>
    let (signal, ctx) ← u.answerFailure span ctx object.kind e
    return ⟨signal, ctx, { state with object }⟩
  | .ok written =>
    let (signal, ctx) ← u.answerSuccess span ctx
    return ⟨signal, ctx, { state with object := written }⟩

def action : Action where
  name := "updateStatus"
  run span ctx state := Run.ofAct (u.apply span ctx state)

end StatusUpdate

end ControlLoop
