import ControlLoop.Bag
import ControlLoop.Object.Basic

/-!
# The state of a pass

The object as the pass has changed it so far, and the values that its steps have left for each
other.
-/

namespace ControlLoop

structure State where
  object : Object
  bag : Bag BagType.Value := ∅

namespace State

def display (s : State) : String :=
  "BaseState \x7b obj: Obj(" ++ s.object.key.text ++ "), bag: " ++ s.bag.display ++ ", .. \x7d"

end State

end ControlLoop
