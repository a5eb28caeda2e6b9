/-!
# Saturating arithmetic

Counters and versions stop at the ends of their range instead of wrapping around.
-/

namespace ControlLoop

/-- The integer, or the nearer end of the interval. -/
def clamp (low high n : Int) : Int := max low (min high n)

def saturatingAdd32 (a b : UInt32) : UInt32 :=
  UInt32.ofNat (min (a.toNat + b.toNat) (UInt32.size - 1))

def saturatingAdd64 (a b : UInt64) : UInt64 :=
  UInt64.ofNat (min (a.toNat + b.toNat) (UInt64.size - 1))

def saturatingAddInt64 (a b : Int64) : Int64 :=
  Int64.ofInt (clamp Int64.minValue.toInt Int64.maxValue.toInt (a.toInt + b.toInt))

theorem toNat_saturatingAdd32 (a b : UInt32) :
    (saturatingAdd32 a b).toNat = min (a.toNat + b.toNat) (UInt32.size - 1) := by
  rw [saturatingAdd32, UInt32.toNat_ofNat']
  exact Nat.mod_eq_of_lt (by simp only [UInt32.size]; omega)

theorem toNat_saturatingAdd64 (a b : UInt64) :
    (saturatingAdd64 a b).toNat = min (a.toNat + b.toNat) (UInt64.size - 1) := by
  rw [saturatingAdd64, UInt64.toNat_ofNat']
  exact Nat.mod_eq_of_lt (by simp only [UInt64.size]; omega)

end ControlLoop
