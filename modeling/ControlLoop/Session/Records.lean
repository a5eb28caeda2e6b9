import ControlLoop.Object.Basic
import ControlLoop.Script.Effect
import ControlLoop.Script.Test

/-!
# Sessions with records

Operations one after the other on a bag, on metadata and on a set of conditions, and a single test.
-/

namespace ControlLoop

/-- What each effect finds, and how many values there are after it. -/
def Bag.performAll (b : Bag BagType.Value) : List Script.BagEffect → List (Finding × Nat)
  | [] => []
  | e :: es =>
    let (finding, b) := e.perform b
    (finding, b.size) :: performAll b es

inductive FinalizerOp where
  | add (finalizer : String)
  | remove (finalizer : String)
  | has (finalizer : String)

namespace Metadata

def perform (m : Metadata) : FinalizerOp → Bool × Metadata
  | .add finalizer => (!m.hasFinalizer finalizer, m.addFinalizer finalizer)
  | .remove finalizer => (m.hasFinalizer finalizer, m.removeFinalizer finalizer)
  | .has finalizer => (m.hasFinalizer finalizer, m)

def performAll (m : Metadata) : List FinalizerOp → List (Bool × Metadata)
  | [] => []
  | op :: ops =>
    let (b, m) := m.perform op
    (b, m) :: performAll m ops

end Metadata

inductive ConditionOp where
  | set (c : Condition)
  | remove (type : String)
  | find (type : String)
  | status (type : String)
  | verdicts (type : String)
  | types
  | entries
  | size
  /-- Whether the set is the one read from its entries. -/
  | rebuild

inductive ConditionAnswer where
  | flag (b : Bool)
  | condition (c : Option Condition)
  | status (s : Option ConditionStatus)
  | verdicts (affirmed denied : Bool)
  | types (list : List String)
  | entries (list : List Condition)
  | size (n : Nat) (isEmpty : Bool)

namespace Conditions

def perform (s : Conditions) (clock : Stamp) : ConditionOp → ConditionAnswer × Conditions
  | .set c => (.flag (s.setChanges c), s.set c clock)
  | .remove type => (.flag (s.contains type), s.remove type)
  | .find type => (.condition (s.find? type), s)
  | .status type => (.status (s.status? type), s)
  | .verdicts type => (.verdicts (s.isAffirmed type) (s.isDenied type), s)
  | .types => (.types s.types, s)
  | .entries => (.entries s.entries, s)
  | .size => (.size s.size s.isEmpty, s)
  | .rebuild => (.flag (ofList s.entries = s), s)

/-- Answers from the given turn on, in which conditions without a time are stamped. -/
def performAll (s : Conditions) (turn : Nat) :
    List ConditionOp → List (ConditionAnswer × Conditions)
  | [] => []
  | op :: ops =>
    let (answer, s) := s.perform (.read turn) op
    (answer, s) :: performAll s (turn + 1) ops

end Conditions

namespace Script

/-- The result of a test on an object in a context made by effects, and the notes it leaves. -/
def evaluate (o : Object) (effects : List ContextEffect) (t : Test) : Bool × List Note :=
  let m : Moment := ⟨.start, .read 0⟩
  let (ctx, w) := ContextEffect.performAll none (.background none) effects m {}
  t.predicate.eval ⟨ctx, { object := o }, m.now, w.handles⟩

end Script

end ControlLoop
