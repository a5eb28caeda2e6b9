/-!
# Spans

A span marks the part of the log that belongs to a pass, a composer or a step. A context names the
span under which new spans are opened; outside of any span there is none.
-/

namespace ControlLoop

inductive Span where
  | pass
  | sequence (name : String)
  | switch (name : String)
  | step (name : String)
deriving DecidableEq

namespace Span

def label : Span → String
  | .pass => "reconcile"
  | .sequence name => "compose:" ++ name
  | .switch name => "switch:" ++ name
  | .step name => "step:" ++ name

end Span

end ControlLoop
