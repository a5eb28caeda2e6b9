import ControlLoop.Script.Effect
import ControlLoop.StatusUpdate.Builder

/-!
# Status updates of a script

The scripted hooks of a status update leave a note that they were called and with which error.
-/

namespace ControlLoop.Script

namespace UpdateCall

def wrap (context : String) (replacement : Option Error) : ErrorWrapper := fun e ↦ do
  Act.leave (.effect "wrapper" [.error e])
  return replacement.getD (e.wrap context)

def errorHook (s : Option Signal) (effects : List ContextEffect) : ErrorHook := fun span ctx e ↦ do
  Act.leave (.effect "on_error" [.error e])
  return (s.getD (.propagate e), ← ContextEffect.performAll span ctx effects)

def successHook (s : Signal) (effects : List ContextEffect) : SuccessHook := fun span ctx ↦ do
  Act.leave (.effect "on_success" [])
  return (s, ← ContextEffect.performAll span ctx effects)

def call : UpdateCall → StatusUpdate.Call
  | .set conditions => .set conditions
  | .keepOnly types => .keepOnly types
  | .keepAll => .keepAll
  | .logMessage message => .logMessage message
  | .failedSignal s => .failedSignal s
  | .successSignal s => .successSignal s
  | .wrapper context replacement => .wrapper (wrap context replacement)
  | .onError s effects => .onError (errorHook s effects)
  | .onSuccess s effects => .onSuccess (successHook s effects)

def options (calls : List UpdateCall) : StatusUpdate.Options :=
  StatusUpdate.Options.ofCalls (calls.map call)

end UpdateCall

end ControlLoop.Script
