import ControlLoop.Bag
import ControlLoop.Context
import ControlLoop.Signal

/-!
# Trails

A trail tells what the steps of a run did, in order: each step that started, and what its effects
found.
-/

namespace ControlLoop

/-- What can be seen of a context at an instant. -/
structure ContextReport where
  fields : Fields
  deadline : Option Instant
  error : Option Error

namespace Context

def report (ctx : Context) (now : Instant) (handles : Handles) : ContextReport :=
  { fields := ctx.fields
    deadline := ctx.deadline
    error := ctx.error? now handles }

end Context

inductive Finding where
  | nothing
  | flag (b : Bool)
  | number (n : Int)
  | text (s : String)
  | texts (items : List String)
  | size (n : Nat) (isEmpty : Bool)
  | field (value : FieldValue)
  | context (report : ContextReport)
  | signal (s : Signal)
  | error (e : Error)

namespace Finding

def ofValue : BagValue → Finding
  | ⟨.text, s⟩ => .text s
  | ⟨.word32, n⟩ => .number n.toNat
  | ⟨.word64, n⟩ => .number n.toNat
  | ⟨.int64, n⟩ => .number n.toInt
  | ⟨.flag, b⟩ => .flag b
  | ⟨.texts, items⟩ => .texts items

end Finding

inductive Note where
  | step (name : String)
  | effect (name : String) (findings : List Finding)

end ControlLoop
