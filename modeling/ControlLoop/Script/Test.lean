import ControlLoop.Predicate
import ControlLoop.Script.Basic

/-!
# Tests of a script

What each test asks of the scene of a pass, as a predicate.
-/

namespace ControlLoop.Script.Test

/-- A leaf that leaves a note of its own after those of the predicate. -/
def notedLeaf (name : String) (p : Predicate) : Predicate :=
  .leaf fun s ↦
    let (b, notes) := p.eval s
    (b, notes ++ [.effect "pred" [.text name, .flag b]])

mutual

def predicate : Test → Predicate
  | .deleting => .isDeleting
  | .not t => .not (predicate t)
  | .all ts => .all (predicates ts)
  | .any ts => .any (predicates ts)
  | .const value => .pure fun _ ↦ value
  | .spec value => .pure fun s ↦ s.state.object.spec == value
  | .name value => .pure fun s ↦ s.state.object.metadata.name == value
  | .hasFinalizer finalizer => .pure fun s ↦ s.state.object.metadata.hasFinalizer finalizer
  | .conditionAffirmed type => .pure fun s ↦ s.state.object.conditions.isAffirmed type
  | .conditionDenied type => .pure fun s ↦ s.state.object.conditions.isDenied type
  | .conditionPresent type => .pure fun s ↦ s.state.object.conditions.contains type
  | .field key value => .pure fun s ↦ s.ctx.fields[key]? == some (.text value)
  | .contextDone => .pure fun s ↦ s.ctx.isDone s.now s.handles
  | .bagContains key => .pure fun s ↦ s.state.bag.contains key
  | .versionAtLeast version => .pure fun s ↦ version ≤ s.state.object.version
  | .noted label t => notedLeaf label (predicate t)

def predicates : List Test → List Predicate
  | [] => []
  | t :: ts => predicate t :: predicates ts

end

end ControlLoop.Script.Test
