import ControlLoop.State
import ControlLoop.Trail

/-!
# Predicates

Tests over the context and state of a pass, combined by negation, conjunction and disjunction. A
conjunction stops at the first test that fails and a disjunction at the first that holds. A leaf
may leave notes when it is evaluated, so the notes of an evaluation tell which leaves it reached and
in which order.
-/

namespace ControlLoop

/-- What a predicate looks at. -/
structure Scene where
  ctx : Context
  state : State
  now : Instant
  handles : Handles

inductive Predicate where
  | leaf (test : Scene → Bool × List Note)
  | not (p : Predicate)
  | all (ps : List Predicate)
  | any (ps : List Predicate)

namespace Predicate

/-- A leaf that leaves no notes. -/
def pure (test : Scene → Bool) : Predicate := .leaf fun s ↦ (test s, [])

/-- A leaf that leaves its name when it is asked. -/
def asking (name : String) (holds : Bool) : Predicate := .leaf fun _ ↦ (holds, [.step name])

def isDeleting : Predicate := .pure fun s ↦ s.state.object.metadata.isDeleting

mutual

/-- The truth value and the notes of the leaves evaluated for it. -/
def eval (s : Scene) : Predicate → Bool × List Note
  | .leaf test => test s
  | .not p => let (b, notes) := eval s p; (!b, notes)
  | .all ps => evalAll s ps
  | .any ps => evalAny s ps

def evalAll (s : Scene) : List Predicate → Bool × List Note
  | [] => (true, [])
  | p :: ps =>
    match eval s p with
    | (true, notes) => let (b, more) := evalAll s ps; (b, notes ++ more)
    | (false, notes) => (false, notes)

def evalAny (s : Scene) : List Predicate → Bool × List Note
  | [] => (false, [])
  | p :: ps =>
    match eval s p with
    | (true, notes) => (true, notes)
    | (false, notes) => let (b, more) := evalAny s ps; (b, notes ++ more)

end

end Predicate

end ControlLoop
