import ControlLoop.Cancellation
import ControlLoop.Clock
import ControlLoop.Error
import ControlLoop.Span

/-!
# Contexts

The context of a pass carries the span and the fields of its log, the tokens that cancel it and a
deadline. Deriving a context only adds tokens and only brings the deadline forward, so whatever ends
a context ends every context derived from it. Cancellation is reported before a passed deadline.
-/

namespace ControlLoop

/-- The value of a log field: a text, or the identifier that a pass draws at random. -/
inductive FieldValue where
  | text (s : String)
  | passId
deriving DecidableEq

namespace FieldValue

/-- A text is shown as it is, and a placeholder stands for an identifier that is drawn at random. -/
def display : FieldValue → String
  | .text s => s
  | .passId => "<ulid>"

end FieldValue

abbrev Fields := Std.ExtTreeMap String FieldValue

namespace Fields

/-- The fields in the order of their names. -/
def display (fields : Fields) : String :=
  " ".intercalate (fields.toList.map fun (name, value) ↦ name ++ "=" ++ value.display)

end Fields

structure Context where
  span : Option Span
  fields : Fields
  tokens : List CancelToken
  deadline : Option Instant

namespace Context

/-- A context that never ends, made under a span. -/
def background (span : Option Span) : Context := ⟨span, ∅, [], none⟩

variable (ctx : Context)

def withSpan (span : Option Span) : Context := { ctx with span }

def withField (name : String) (value : FieldValue) : Context :=
  { ctx with fields := ctx.fields.insert name value }

def withToken (token : CancelToken) : Context := { ctx with tokens := ctx.tokens ++ [token] }

/-- Adds a deadline; an earlier one stays. -/
def withDeadline (due : Instant) : Context :=
  { ctx with deadline := some <|
      match ctx.deadline with
      | some earlier => if earlier < due then earlier else due
      | none => due }

/-- Adds the deadline after a time limit, if the clock can show it. -/
def withTimeout (now : Instant) (limit : Duration) : Context :=
  match now.after? limit with
  | some due => ctx.withDeadline due
  | none => ctx

def isCancelled (handles : Handles) : Bool := ctx.tokens.any handles.isCancelled

def isExpired (now : Instant) : Bool := ctx.deadline.any fun due ↦ due ≤ now

/-- Why the context is done, if it is. -/
def error? (now : Instant) (handles : Handles) : Option Error :=
  if ctx.isCancelled handles then some .cancelled
  else if ctx.isExpired now then some .deadlineExceeded
  else none

def isDone (now : Instant) (handles : Handles) : Bool := (ctx.error? now handles).isSome

@[simp] theorem error?_withSpan (span : Option Span) (now : Instant) (handles : Handles) :
    (ctx.withSpan span).error? now handles = ctx.error? now handles := rfl

@[simp] theorem error?_withField (name : String) (value : FieldValue) (now : Instant)
    (handles : Handles) :
    (ctx.withField name value).error? now handles = ctx.error? now handles := rfl

variable {ctx}

theorem error?_eq_cancelled_iff {now : Instant} {handles : Handles} :
    ctx.error? now handles = some .cancelled ↔ ctx.isCancelled handles = true := by
  unfold error?
  cases ctx.isCancelled handles <;> cases ctx.isExpired now <;> simp

theorem error?_eq_deadlineExceeded_iff {now : Instant} {handles : Handles} :
    ctx.error? now handles = some .deadlineExceeded ↔
      ¬ ctx.isCancelled handles = true ∧ ctx.isExpired now = true := by
  unfold error?
  cases ctx.isCancelled handles <;> cases ctx.isExpired now <;> simp

theorem isSome_error?_iff {now : Instant} {handles : Handles} :
    (ctx.error? now handles).isSome = true ↔
      ctx.isCancelled handles = true ∨ ctx.isExpired now = true := by
  unfold error?
  cases ctx.isCancelled handles <;> cases ctx.isExpired now <;> simp

theorem error?_background (span : Option Span) (now : Instant) (handles : Handles) :
    (background span).error? now handles = none := rfl

end Context

end ControlLoop
