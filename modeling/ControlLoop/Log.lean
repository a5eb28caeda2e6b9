import ControlLoop.Context
import ControlLoop.ObjectKey
import ControlLoop.Signal
import ControlLoop.Text.Quoted

/-!
# The log

Each entry is an event of the loop with what it reports; a new span is an entry too and names the
span it was opened under. An entry is written as a line: a level and a message with named fields, or
the name of a span.
-/

namespace ControlLoop

inductive LogEntry where
  | passOpened (kind : String) (object : ObjectKey) (parent : Option Span)
  | sequenceOpened (name : String) (parent : Option Span)
  | switchOpened (name : String) (parent : Option Span)
  | contextDone (action : String) (error : Error)
  | running (action : String)
  | stopped (action : String) (signal : Signal)
  | caseMatched (index : Nat) (action : String)
  | noCaseMatched
  | failed (message : String) (error : Error) (fields : Fields) (signal : Signal)
  | staleRemoved (object : ObjectKey) (types : List String)
  | persisted (object : ObjectKey) (version : UInt64)
  | passStarted (action : String)
  | stateFailed (error : Error)
  | converged
  | requeueRequested (after : Duration)
  | passFailed (error : Error) (failures : UInt32) (retryable : Bool) (retryAfter : Duration)

inductive LogLevel where
  | debug
  | info
  | warning
  | error
deriving DecidableEq

inductive LogLine where
  | event (level : LogLevel) (message : String) (fields : List (String × String))
  | span (name : String) (fields : List (String × String)) (parent : Option Span)

namespace LogEntry

def line : LogEntry → LogLine
  | .passOpened kind object parent =>
    .span "reconcile"
      [("kind", kind), ("object", object.text), ("pass_id", FieldValue.passId.display)] parent
  | .sequenceOpened name parent => .span "compose" [("name", name)] parent
  | .switchOpened name parent => .span "switch" [("name", name)] parent
  | .contextDone action error =>
    .event .warning "Context done before action, stopping"
      [("action", action), ("error", error.message)]
  | .running action => .event .debug "Running action" [("action", action)]
  | .stopped action signal =>
    .event .debug "Action stopped the sequence" [("action", action), ("signal", signal.text)]
  | .caseMatched index action =>
    .event .debug "Case matched" [("case", toString index), ("action", action)]
  | .noCaseMatched => .event .debug "No case matched, running default" []
  | .failed message error fields signal =>
    .event .error message
      [("error", error.message), ("fields", fields.display), ("signal", signal.text)]
  | .staleRemoved object types =>
    .event .debug "Removed stale conditions"
      [("object", object.text), ("removed", Text.quotedList types)]
  | .persisted object version =>
    .event .debug "Status persisted"
      [("object", object.text), ("resource_version", toString version.toNat)]
  | .passStarted action => .event .debug "Starting pass" [("action", action)]
  | .stateFailed error =>
    .event .warning "Failed to build pass state" [("error", error.message)]
  | .converged => .event .info "Object converged" []
  | .requeueRequested after =>
    .event .debug "Requeue requested" [("after_ms", toString after.millis)]
  | .passFailed error failures retryable retryAfter =>
    .event .warning "Pass failed"
      [("error", error.message), ("failures", toString failures.toNat),
        ("retryable", toString retryable), ("retry_after_ms", toString retryAfter.millis)]

end LogEntry

end ControlLoop
