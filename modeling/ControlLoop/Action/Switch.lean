import ControlLoop.Action.Basic
import ControlLoop.Predicate

/-!
# Switches

A switch runs the action of the first case whose predicate holds, else its default, else nothing.
Predicates are evaluated in order up to that case. Its signal is that of the action it runs.
-/

namespace ControlLoop

structure Case where
  predicate : Predicate
  action : Action

namespace Case

/-- The first case that holds, counted from `index`, and the notes of the predicates evaluated. -/
def select (s : Scene) (index : Nat) : List Case → Option (Nat × Action) × List Note
  | [] => (none, [])
  | c :: cs =>
    match c.predicate.eval s with
    | (true, notes) => (some (index, c.action), notes)
    | (false, notes) => let (chosen, more) := select s (index + 1) cs; (chosen, notes ++ more)

end Case

namespace Act

def scene (ctx : Context) (state : State) : Act Scene := do
  return { ctx, state, now := (← read).now, handles := (← get).handles }

/-- The action that a switch runs, if any. -/
def choose (cases : List Case) (default : Option Action) (ctx : Context) (state : State) :
    Act (Option Action) := do
  let (chosen, notes) := Case.select (← scene ctx state) 0 cases
  leaveAll notes
  match chosen with
  | some (index, action) =>
    log (.caseMatched index action.name)
    return some action
  | none =>
    log .noCaseMatched
    return default

end Act

namespace Action

def switch (name : String) (cases : List Case) (default : Option Action) : Action where
  name
  run _ ctx state := do
    Act.log (.switchOpened name ctx.span)
    match ← Act.choose cases default ctx state with
    | some action => action.run (some (.switch name)) ctx state
    | none => return ⟨.proceed, ctx, state⟩

def ifElse (name : String) (predicate : Predicate) (action : Action) (otherwise : Option Action) :
    Action :=
  switch name [⟨predicate, action⟩] otherwise

end Action

end ControlLoop
