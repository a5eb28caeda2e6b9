import ControlLoop.Duration
import ControlLoop.Error

/-!
# Control signals

Every action answers with a signal. Only `proceed` lets the enclosing composer go on; the others end
the pass and say whether the object is forgotten until it changes, seen again, or retried.
-/

namespace ControlLoop

inductive Signal where
  | proceed
  | forget
  | requeue (after : Option Duration)
  | propagate (error : Error)
deriving DecidableEq

/-- A signal without what it carries. -/
inductive SignalKind where
  | proceed
  | forget
  | requeue
  | propagate
deriving DecidableEq

namespace Signal

def ofResult : Except Error Unit → Signal
  | .ok () => .proceed
  | .error e => .propagate e

def isTerminal : Signal → Bool
  | .proceed => false
  | _ => true

def isProceed (s : Signal) : Bool := !s.isTerminal

def kind : Signal → SignalKind
  | .proceed => .proceed
  | .forget => .forget
  | .requeue _ => .requeue
  | .propagate _ => .propagate

def error? : Signal → Option Error
  | .propagate e => some e
  | _ => none

def text : Signal → String
  | .proceed => "continue"
  | .forget => "stop and forget"
  | .requeue none => "stop with requeue"
  | .requeue (some delay) => "stop with requeue after " ++ delay.millisText
  | .propagate e => "propagate: " ++ e.message

@[simp] theorem isTerminal_eq_false_iff {s : Signal} : s.isTerminal = false ↔ s = .proceed := by
  cases s <;> simp [isTerminal]

theorem isTerminal_iff {s : Signal} : s.isTerminal = true ↔ s ≠ .proceed := by
  cases s <;> simp [isTerminal]

end Signal

end ControlLoop
