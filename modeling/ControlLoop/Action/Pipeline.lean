import ControlLoop.Action.Sequence
import ControlLoop.Action.Switch

/-!
# Pipelines

A pipeline is a tree of sequences and switches over actions of any kind. It runs as the action that
its composers make of its parts.
-/

namespace ControlLoop

inductive Pipeline where
  | leaf (action : Action)
  | sequence (name : String) (parts : List Pipeline)
  | switch (name : String) (cases : List (Predicate × Pipeline)) (default : Option Pipeline)

namespace Pipeline

def ifElse (name : String) (predicate : Predicate) (part : Pipeline) (otherwise : Option Pipeline) :
    Pipeline :=
  .switch name [(predicate, part)] otherwise

mutual

def action : Pipeline → Action
  | .leaf a => a
  | .sequence name parts => .sequence name (partActions parts)
  | .switch name cases default => .switch name (caseActions cases) (defaultAction default)

def partActions : List Pipeline → List Action
  | [] => []
  | p :: ps => action p :: partActions ps

def caseActions : List (Predicate × Pipeline) → List Case
  | [] => []
  | c :: cs => caseAction c :: caseActions cs

def caseAction : Predicate × Pipeline → Case
  | (predicate, p) => ⟨predicate, action p⟩

def defaultAction : Option Pipeline → Option Action
  | none => none
  | some p => some (action p)

end

def run (p : Pipeline) : Option Span → Context → State → Run Reply := p.action.run

end Pipeline

end ControlLoop
