import ControlLoop.Binary64.Basic
import ControlLoop.Duration

/-!
# Backoff

After each further failure the delay before the next pass grows by a factor, up to a greatest delay.
The delay is computed in doubles and cut to whole milliseconds.
-/

namespace ControlLoop

structure Backoff where
  initial : UInt64
  max : UInt64
  multiplier : Binary64
deriving DecidableEq

namespace Backoff

def default : Backoff := ⟨1000, 300000, Binary64.ofNat 2⟩

variable (b : Backoff)

def initialDelay : Duration := .ofMillis b.initial.toNat

def maxDelay : Duration := .ofMillis b.max.toNat

/-- How often the delay has grown after a number of failures, of which the first counts for none. -/
def exponent (failures : UInt32) : Nat := min (failures.toNat - 1) 0x7fffffff

/-- The delay in milliseconds, before the fraction is cut off. -/
def rawMillis (failures : UInt32) : Binary64 :=
  ((Binary64.ofNat b.initial.toNat).mul (b.multiplier.pow (exponent failures))).min
    (Binary64.ofNat b.max.toNat)

def delayMillis (failures : UInt32) : UInt64 := (b.rawMillis failures).toWord

/-- The delay before the pass after the given number of consecutive failures. -/
def delayFor (failures : UInt32) : Duration := .ofMillis (b.delayMillis failures).toNat

end Backoff

end ControlLoop
