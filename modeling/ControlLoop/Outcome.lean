import ControlLoop.Config.Basic
import ControlLoop.Signal

/-!
# Outcomes

The outcome of a pass says when its object is seen again: not before it changes, after a delay that
the pass asked for, or after the backoff for the failures so far.
-/

namespace ControlLoop

inductive Outcome where
  | done
  | requeue (after : Duration)
  | failed (error : Error) (retryAfter : Duration)
deriving DecidableEq

namespace Outcome

/-- What a signal at the end of a pass means; `failures` counts this pass too. -/
def ofSignal (config : Config) (failures : UInt32) : Signal → Outcome
  | .proceed | .forget => .done
  | .requeue after => .requeue (after.getD config.requeueAfter)
  | .propagate e => .failed e (config.backoff.delayFor failures)

/-- The delay before the next pass, if one is wanted. -/
def delay? : Outcome → Option Duration
  | .done => none
  | .requeue after => some after
  | .failed _ retryAfter => some retryAfter

def isDone : Outcome → Bool
  | .done => true
  | _ => false

def isFailed : Outcome → Bool
  | .failed _ _ => true
  | _ => false

def error? : Outcome → Option Error
  | .failed e _ => some e
  | _ => none

def text : Outcome → String
  | .done => "done"
  | .requeue after => "requeue after " ++ after.millisText
  | .failed e retryAfter =>
    "failed (" ++ e.message ++ "), retry after " ++ retryAfter.millisText

end Outcome

end ControlLoop
