import ControlLoop.StatusUpdate.Basic

/-!
# Building status updates

An update is described by calls in any order: conditions to set and types to keep accumulate, and of
repeated hooks, signals and messages the last one counts. Keeping all conditions excludes a list of
the types to keep, even an empty one.
-/

namespace ControlLoop.StatusUpdate

inductive Call where
  | set (conditions : List Condition)
  | keepOnly (types : List String)
  | keepAll
  | logMessage (message : String)
  | wrapper (f : ErrorWrapper)
  | onError (hook : ErrorHook)
  | onSuccess (hook : SuccessHook)
  | failedSignal (s : Signal)
  | successSignal (s : Signal)

structure Options where
  conditions : List Condition := []
  kept : Std.ExtTreeSet String := ∅
  keepsOnly : Bool := false
  keepsAll : Bool := false
  logMessage : Option String := none
  wrapper : Option ErrorWrapper := none
  onError : Option ErrorHook := none
  onSuccess : Option SuccessHook := none
  failedSignal : Option Signal := none
  successSignal : Option Signal := none

namespace Options

def call (o : Options) : Call → Options
  | .set conditions => { o with conditions := o.conditions ++ conditions }
  | .keepOnly types => { o with kept := o.kept.insertMany types, keepsOnly := true }
  | .keepAll => { o with keepsAll := true }
  | .logMessage message => { o with logMessage := some message }
  | .wrapper f => { o with wrapper := some f }
  | .onError hook => { o with onError := some hook }
  | .onSuccess hook => { o with onSuccess := some hook }
  | .failedSignal s => { o with failedSignal := some s }
  | .successSignal s => { o with successSignal := some s }

def ofCalls (calls : List Call) : Options := calls.foldl call {}

def retentionConflict : Error :=
  .invalidConfig "keep_all_conditions and remove_all_conditions_except are mutually exclusive"

def build (o : Options) : Except Error StatusUpdate :=
  if o.keepsAll && o.keepsOnly then .error retentionConflict
  else .ok {
    conditions := o.conditions
    retention := if o.keepsAll then .keepAll else .keepOnly o.kept
    logMessage := o.logMessage
    wrapper := o.wrapper.getD pure
    onError := o.onError
    onSuccess := o.onSuccess
    failedSignal := o.failedSignal.getD (.requeue none)
    successSignal := o.successSignal.getD .forget }

/-- Builds the update and applies it; a contradiction between options is logged and propagated. -/
def run (o : Options) (span : Option Span) (ctx : Context) (state : State) : Act Reply := do
  match o.build with
  | .ok update => update.apply span ctx state
  | .error e =>
    return ⟨← Act.logFailure ctx "Invalid status update" e (.propagate e), ctx, state⟩

end Options

end ControlLoop.StatusUpdate
