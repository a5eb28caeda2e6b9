import ControlLoop.FailureCounts
import ControlLoop.Log
import ControlLoop.Store
import ControlLoop.Trail

/-!
# The world of a session

What all passes of a session share: the cancel handles, the object store, the failure counts, and
the trail and log that they leave. An act happens at a moment, takes no time, and may change the
world.
-/

namespace ControlLoop

structure World where
  handles : Handles := ∅
  store : Store := ∅
  failures : FailureCounts := ∅
  trail : List Note := []
  log : List LogEntry := []

abbrev Act := ReaderT Moment (StateM World)

namespace Act

def leave (n : Note) : Act Unit := modify fun w ↦ { w with trail := w.trail ++ [n] }

def leaveAll (notes : List Note) : Act Unit := modify fun w ↦ { w with trail := w.trail ++ notes }

def log (e : LogEntry) : Act Unit := modify fun w ↦ { w with log := w.log ++ [e] }

/-- Why the context is done at this moment, if it is. -/
def contextError (ctx : Context) : Act (Option Error) := do
  return ctx.error? (← read).now (← get).handles

/-- Logs an error with the context's fields and the signal that answers it. -/
def logFailure (ctx : Context) (message : String) (e : Error) (s : Signal) : Act Signal := do
  log (.failed message e ctx.fields s)
  return s

/-- Writes the object's status to the store. A failed write leaves the object as it was. -/
def persist (o : Object) : Act (Except Error Object) := do
  let w ← get
  let (answer, store) := w.store.update o
  set { w with store }
  if let .ok written := answer then log (.persisted written.key written.version)
  return answer

end Act

end ControlLoop
