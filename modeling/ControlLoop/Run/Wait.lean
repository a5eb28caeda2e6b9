import ControlLoop.Run.Basic

/-!
# Waiting for time and for the end of a context

A wait for a context ends when one of its tokens is cancelled or the timer of its deadline fires, so
the context is done by then. Which of the two is reported when both have happened depends on which
is looked at first.
-/

namespace ControlLoop

namespace Context

/-- Why the context is over for one who waits for it, if it is: its tokens and the timer of its
deadline are looked at in the given order. -/
def fired? (timerFirst : Bool) (ctx : Context) (now : Instant) (handles : Handles) : Option Error :=
  let cancelled := if ctx.isCancelled handles then some Error.cancelled else none
  let expired :=
    if ctx.deadline.any fun due ↦ due.timerTick ≤ now.tick then some Error.deadlineExceeded
    else none
  if timerFirst then expired <|> cancelled else cancelled <|> expired

/-- What wakes one who waits for the end of the context. -/
def wake (ctx : Context) : Wake where
  timer := ctx.deadline.map Instant.timerTick
  tokens := ctx.tokens

end Context

namespace Run

/-- Waits until the context is done; it never ends for a context that never is. -/
def awaitDone (timerFirst : Bool) (ctx : Context) : Run Error := fun m w ↦
  match ctx.fired? timerFirst m.now w.handles with
  | some e => .finished e w
  | none => .waiting w ctx.wake fun m' w' ↦
    .finished ((ctx.fired? timerFirst m'.now w'.handles).getD .cancelled) w'

/-- A delay that the clock cannot show stands for thirty years. -/
def sleep (d : Duration) : Run Unit := fun m w ↦
  untilInstant ((m.now.after? d).getD (m.now.after (.ofSeconds (30 * 365 * 86400) 0))) m w

end Run

end ControlLoop
