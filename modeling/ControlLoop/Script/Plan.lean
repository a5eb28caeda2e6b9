import ControlLoop.Action.Pipeline
import ControlLoop.Run.Wait
import ControlLoop.Script.Perform

/-!
# Plans

A plan is built into a pipeline, parts before the whole and a default before the cases; building
fails only where a status update contradicts itself. A step starts by leaving its name on the trail.
A plan that a step runs is built on the spot, and propagates the error if that fails.
-/

namespace ControlLoop.Script

/-- Building leaves notes, also up to where it fails. -/
abbrev Build := ExceptT Error (StateM (List Note))

namespace Build

def note (n : Note) : Build Unit := modify (· ++ [n])

end Build

mutual

def Effect.perform (span : Option Span) (s : Stage) : Effect → Run Stage
  | .sleep d => do
    Run.sleep d
    return s
  | .awaitDone => do
    let e ← Run.awaitDone false s.ctx
    Act.leave (.effect "await_cancel" [.error e])
    return s
  | .run p => do
    let (built, notes) := (Plan.build p).run []
    Act.leaveAll notes
    let reply ← match built with
      | .ok pipeline => pipeline.run span s.ctx s.state
      | .error e => pure ⟨.propagate e, s.ctx, s.state⟩
    Act.leave (.effect "run" [.signal reply.signal])
    return .ofReply reply
  | e => e.performAtOnce span s

/-- Performs effects up to the one that ends the step. -/
def Effect.performAll (span : Option Span) (s : Stage) : List Effect → Run Stage
  | [] => return s
  | e :: es => do
    let s ← Effect.perform span s e
    if s.ended.isSome then return s else Effect.performAll span s es

def Plan.build : Plan → Build Pipeline
  | .step name effects signal =>
    return .leaf {
      name
      run := fun span ctx state ↦ do
        Act.leave (.step name)
        let s ← Effect.performAll span ⟨none, ctx, state⟩ effects
        return ⟨s.ended.getD signal, s.ctx, s.state⟩ }
  | .proceed => return .leaf .proceed
  | .forget => return .leaf .forget
  | .requeue after => return .leaf (.requeue after)
  | .sequence name parts noted => do
    let built ← Plan.buildAll parts
    if noted then
      Build.note (.effect "seq" [.number built.length, .flag built.isEmpty])
    return .sequence name built
  | .switch name cases default => do
    let builtDefault ← Plan.buildDefault default
    return .switch name (← Plan.buildCases cases) builtDefault
  | .ifElse name test part otherwise => do
    let built ← Plan.build part
    return .ifElse name test.predicate built (← Plan.buildDefault otherwise)
  | .update calls => do
    let update ← ExceptT.mk (pure (UpdateCall.options calls).build)
    return .leaf update.action

def Plan.buildAll : List Plan → Build (List Pipeline)
  | [] => return []
  | p :: ps => do
    let built ← Plan.build p
    return built :: (← Plan.buildAll ps)

def Plan.buildCases : List (Test × Plan) → Build (List (Predicate × Pipeline))
  | [] => return []
  | c :: cs => do
    let built ← Plan.buildCase c
    return built :: (← Plan.buildCases cs)

def Plan.buildCase : Test × Plan → Build (Predicate × Pipeline)
  | (test, p) => return (test.predicate, ← Plan.build p)

def Plan.buildDefault : Option Plan → Build (Option Pipeline)
  | none => return none
  | some p => return some (← Plan.build p)

end

end ControlLoop.Script
