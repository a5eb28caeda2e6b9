import ControlLoop.Duration
import ControlLoop.Stamp

/-!
# Reading the clocks and waiting for them

A moment is what the two clocks show: the steady clock that deadlines are measured on and the wall
clock that records are stamped with. Timers count in ticks of a millisecond. A timer for an instant
is set to the first tick that is not before it; it has fired once the clock has reached that tick,
and a wait for it moves the clock on by whole ticks.
-/

namespace ControlLoop

structure Moment where
  now : Instant
  clock : Stamp

namespace Instant

def nanosPerTick : Nat := 1000000

/-- The last tick that the clock has reached. -/
def tick (now : Instant) : Nat := now.nanos / nanosPerTick

/-- The tick of the timer for an instant. -/
def timerTick (due : Instant) : Nat := (due.nanos + (nanosPerTick - 1)) / nanosPerTick

/-- The instant at which a wait that begins now sees the tick. -/
def atTick (now : Instant) (tick : Nat) : Instant :=
  ⟨now.nanos + (tick - now.tick) * nanosPerTick⟩

theorem le_atTick (now : Instant) (tick : Nat) : now ≤ now.atTick tick :=
  Nat.le_add_right _ _

theorem tick_atTick {now : Instant} {tick : Nat} (h : now.tick ≤ tick) :
    (now.atTick tick).tick = tick := by
  simp only [Instant.tick, nanosPerTick, atTick] at *
  omega

/-- A timer has fired only at or after its instant. -/
theorem le_of_timerTick_le {due now : Instant} (h : due.timerTick ≤ now.tick) : due ≤ now := by
  change due.nanos ≤ now.nanos
  simp only [timerTick, tick, nanosPerTick] at h
  omega

end Instant

end ControlLoop
