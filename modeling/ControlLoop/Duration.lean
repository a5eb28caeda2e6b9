import ControlLoop.Text.Digits

/-!
# Durations and instants

Both are whole numbers of nanoseconds. An instant counts from the start of the session on a clock
that never runs backwards and whose seconds fit into 63 bits.
-/

namespace ControlLoop

structure Duration where
  nanos : Nat
deriving DecidableEq, Inhabited

namespace Duration

def ofMillis (n : Nat) : Duration := ⟨n * 1000000⟩

def ofSeconds (seconds : Nat) (nanos : Nat) : Duration := ⟨seconds * 1000000000 + nanos⟩

def millis (d : Duration) : Nat := d.nanos / 1000000

def seconds (d : Duration) : Nat := d.nanos / 1000000000

/-- The nanoseconds beyond the whole seconds. -/
def subsecond (d : Duration) : Nat := d.nanos % 1000000000

instance : LE Duration := ⟨fun a b ↦ a.nanos ≤ b.nanos⟩

instance : LT Duration := ⟨fun a b ↦ a.nanos < b.nanos⟩

instance (a b : Duration) : Decidable (a ≤ b) := inferInstanceAs (Decidable (a.nanos ≤ b.nanos))

instance (a b : Duration) : Decidable (a < b) := inferInstanceAs (Decidable (a.nanos < b.nanos))

theorem ofMillis_le_ofMillis_iff {m n : Nat} : ofMillis m ≤ ofMillis n ↔ m ≤ n :=
  Nat.mul_le_mul_right_iff (by decide)

theorem ofMillis_lt_ofMillis_iff {m n : Nat} : ofMillis m < ofMillis n ↔ m < n :=
  Nat.mul_lt_mul_right (by decide)

theorem ofSeconds_seconds_subsecond (d : Duration) : ofSeconds d.seconds d.subsecond = d := by
  cases d
  simp only [ofSeconds, seconds, subsecond, mk.injEq]
  omega

theorem millis_ofMillis (n : Nat) : (ofMillis n).millis = n := by
  simp [ofMillis, millis]

def millisText (d : Duration) : String := toString d.millis ++ "ms"

/-- The duration in the largest unit of which it holds at least one, with a decimal fraction. -/
def unitText (d : Duration) : String :=
  let n := d.nanos
  if 1000000000 ≤ n then Text.fixedPoint (n / 1000000000) (n % 1000000000) 9 ++ "s"
  else if 1000000 ≤ n then Text.fixedPoint (n / 1000000) (n % 1000000) 6 ++ "ms"
  else if 1000 ≤ n then Text.fixedPoint (n / 1000) (n % 1000) 3 ++ "µs"
  else toString n ++ "ns"

end Duration

structure Instant where
  nanos : Nat
deriving DecidableEq, Inhabited

namespace Instant

def start : Instant := ⟨0⟩

instance : LE Instant := ⟨fun a b ↦ a.nanos ≤ b.nanos⟩

instance : LT Instant := ⟨fun a b ↦ a.nanos < b.nanos⟩

instance (a b : Instant) : Decidable (a ≤ b) := inferInstanceAs (Decidable (a.nanos ≤ b.nanos))

instance (a b : Instant) : Decidable (a < b) := inferInstanceAs (Decidable (a.nanos < b.nanos))

def after (now : Instant) (d : Duration) : Instant := ⟨now.nanos + d.nanos⟩

/-- The instant after a duration, if the clock can show it. -/
def after? (now : Instant) (d : Duration) : Option Instant :=
  if now.nanos + d.nanos < (1 <<< 63) * 1000000000 then some (now.after d) else none

theorem le_after (now : Instant) (d : Duration) : now ≤ now.after d :=
  Nat.le_add_right _ _

/-- The time since the start of the session. -/
def elapsed (now : Instant) : Duration := ⟨now.nanos⟩

end Instant

end ControlLoop
