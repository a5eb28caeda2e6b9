import ControlLoop.Action.Basic

/-!
# Sequences

A sequence runs its actions in order, each on the context and state that the one before it left, and
stops at the first signal other than `proceed`. Before each action it stops as well if the context
is done. A sequence that comes to its end proceeds, so sequences nest.
-/

namespace ControlLoop.Action

/-- Runs actions in order inside a span. -/
def runAll (span : Option Span) : List Action → Context → State → Run Reply
  | [], ctx, state => pure ⟨.proceed, ctx, state⟩
  | action :: rest, ctx, state => do
    match ← Act.contextError ctx with
    | some e =>
      Act.log (.contextDone action.name e)
      return ⟨.propagate e, ctx, state⟩
    | none =>
      Act.log (.running action.name)
      let reply ← action.run span ctx state
      if reply.signal.isTerminal then
        Act.log (.stopped action.name reply.signal)
        return reply
      else runAll span rest reply.ctx reply.state

def sequence (name : String) (actions : List Action) : Action where
  name
  run _ ctx state := do
    Act.log (.sequenceOpened name ctx.span)
    runAll (some (.sequence name)) actions ctx state

end ControlLoop.Action
