import ControlLoop.Time.Rfc3339

/-!
# Recorded times

A time on a record is either given by whoever made the record or read off the wall clock. Of the
latter only the turn of the session is known in which it was read: readings of one turn are equal.
-/

namespace ControlLoop

inductive Stamp where
  | given (time : UtcTime)
  | read (turn : Nat)
deriving DecidableEq

namespace Stamp

def text : Stamp → String
  | .given time => Rfc3339.print time
  | .read turn => "now@" ++ toString turn

end Stamp

end ControlLoop
