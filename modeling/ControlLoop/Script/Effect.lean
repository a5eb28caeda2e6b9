import ControlLoop.Script.Basic
import ControlLoop.World

/-!
# Effects on contexts and bags

These effects take no time. A bag effect finds something: the value it got, changed or removed, or
what it was asked.
-/

namespace ControlLoop.Script

namespace ContextEffect

/-- The context after the effect, made under a span. -/
def perform (span : Option Span) (ctx : Context) : ContextEffect → Act Context
  | .background => return .background span
  | .field name value => return ctx.withField name (.text value)
  | .timeout limit => return ctx.withTimeout (← read).now limit
  | .deadline due => return ctx.withDeadline due
  | .cancellation handle => do
    let w ← get
    set { w with handles := w.handles.issue handle }
    return ctx.withToken (w.handles.nextToken handle)
  | .span name => return ctx.withSpan (some (.step name))

def performAll (span : Option Span) (ctx : Context) (effects : List ContextEffect) : Act Context :=
  effects.foldlM (perform span) ctx

end ContextEffect

namespace BagEffect

/-- Appends to texts and lists, adds integers within their range and flips a flag if `b` is set. -/
def sum : (type : BagType) → type.Value → type.Value → type.Value
  | .text, s, t => s ++ t
  | .word32, a, b => saturatingAdd32 a b
  | .word64, a, b => saturatingAdd64 a b
  | .int64, a, b => saturatingAddInt64 a b
  | .flag, a, b => a != b
  | .texts, s, t => s ++ t

def found (type : BagType) (value? : Option type.Value) : Finding :=
  (value?.map fun value ↦ Finding.ofValue ⟨type, value⟩).getD .nothing

def perform (b : Bag BagType.Value) : BagEffect → Finding × Bag BagType.Value
  | .insert key ⟨type, value⟩ => (.nothing, b.insert key type value)
  | .get key type => (found type (b.get? key type), b)
  | .add key ⟨type, value⟩ =>
    let changed := b.modify key type fun old ↦ sum type old value
    (found type (changed.get? key type), changed)
  | .remove key type =>
    let (value?, rest) := b.remove key type
    (found type value?, rest)
  | .contains key => (.flag (b.contains key), b)
  | .size => (.size b.size b.isEmpty, b)
  | .display => (.text b.display, b)

def name : BagEffect → String
  | .insert _ _ => "bag_insert"
  | .get _ _ => "bag_get"
  | .add _ _ => "bag_mut"
  | .remove _ _ => "bag_remove"
  | .contains _ => "bag_contains"
  | .size => "bag_len"
  | .display => "bag_debug"

end BagEffect

end ControlLoop.Script
