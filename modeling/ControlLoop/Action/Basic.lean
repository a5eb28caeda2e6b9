import ControlLoop.Run.Combine
import ControlLoop.State

/-!
# Actions

An action is a named unit of work over a context and a state. Its run answers with a signal and with
the context and state that it leaves to whatever comes after it. The span of its surroundings is the
one under which it makes contexts of its own.
-/

namespace ControlLoop

structure Reply where
  signal : Signal
  ctx : Context
  state : State

structure Action where
  name : String
  run : Option Span → Context → State → Run Reply

namespace Action

/-- An action that answers at once and changes nothing. -/
def always (name : String) (signal : Signal) : Action where
  name
  run _ ctx state := pure ⟨signal, ctx, state⟩

def proceed : Action := always "continue" .proceed

def forget : Action := always "stopAndForget" .forget

def requeue (after : Option Duration) : Action := always "stopWithRequeue" (.requeue after)

end Action

end ControlLoop
