import ControlLoop.Proofs.Binary64.Units

/-!
# Powers of doubles

A power by repeated squaring multiplies other rounded squares for an exponent than for the next one,
so that its growth does not follow from that of the exact powers. It follows from the digits: where
the two exponents begin to differ from below, the one has ones and a zero and the other zeros and a
one, and the rounded product of all lower squares never exceeds the next square.
-/

namespace ControlLoop.Binary64

variable {p q s t a : Binary64} {m n : Nat}

theorem powFrom_zero (p s : Binary64) : powFrom p s 0 = p := by
  rw [powFrom]
  rfl

/-- One round of the loop, also if it is the last one. -/
theorem powFrom_eq (p s : Binary64) (n : Nat) :
    powFrom p s n = powFrom (if n % 2 = 1 then p.mul s else p) (s.mul s) (n / 2) := by
  conv_lhs => rw [powFrom]
  by_cases hlast : n / 2 = 0
  · rw [if_pos hlast, hlast, powFrom_zero]
  · rw [if_neg hlast]

theorem powFrom_even (h : n % 2 = 0) : powFrom p s n = powFrom p (s.mul s) (n / 2) := by
  rw [powFrom_eq, if_neg (by omega)]

theorem powFrom_odd (h : n % 2 = 1) :
    powFrom p s n = powFrom (p.mul s) (s.mul s) (n / 2) := by
  rw [powFrom_eq, if_pos h]

theorem unitsOfOne_le_mul (hp : unitsOfOne ≤ p.units) (hs : unitsOfOne ≤ s.units) :
    unitsOfOne ≤ (p.mul s).units :=
  Nat.le_trans hs (units_le_mul_left hp hs)

/-- The loop keeps the order of products and squares. -/
theorem units_powFrom_mono (hp : unitsOfOne ≤ p.units) (hs : unitsOfOne ≤ s.units)
    (hpq : p.units ≤ q.units) (hst : s.units ≤ t.units) (n : Nat) :
    (powFrom p s n).units ≤ (powFrom q t n).units := by
  induction n using Nat.strongRecOn generalizing p q s t with
  | ind n ih =>
    by_cases hn : n = 0
    · rw [hn, powFrom_zero, powFrom_zero]
      exact hpq
    · have hhalf : n / 2 < n := Nat.div_lt_self (Nat.pos_of_ne_zero hn) (by decide)
      have hsquare := unitsOfOne_le_mul hs hs
      have hsquares := units_mul_mono hs hs hst hst
      obtain heven | hodd := Nat.mod_two_eq_zero_or_one n
      · rw [powFrom_even heven, powFrom_even heven]
        exact ih _ hhalf hp hsquare hpq hsquares
      · rw [powFrom_odd hodd, powFrom_odd hodd]
        exact ih _ hhalf (unitsOfOne_le_mul hp hs) hsquare (units_mul_mono hp hs hpq hst) hsquares

/-- If the product so far does not exceed the next square, the power for the next exponent is at
least as large from whatever product it goes on. -/
theorem units_powFrom_le_succ (hp : unitsOfOne ≤ p.units) (hq : unitsOfOne ≤ q.units)
    (hps : p.units ≤ s.units) (n : Nat) :
    (powFrom p s n).units ≤ (powFrom q s (n + 1)).units := by
  induction n using Nat.strongRecOn generalizing p s with
  | ind n ih =>
    have hs : unitsOfOne ≤ s.units := Nat.le_trans hp hps
    have hsquare : unitsOfOne ≤ (s.mul s).units := unitsOfOne_le_mul hs hs
    obtain heven | hodd := Nat.mod_two_eq_zero_or_one n
    · -- The next exponent has the square as a factor, and the higher digits agree.
      have hfactor : p.units ≤ (q.mul s).units := Nat.le_trans hps (units_le_mul_left hq hs)
      have hnext : (n + 1) % 2 = 1 := by omega
      have hdigits : (n + 1) / 2 = n / 2 := by omega
      rw [powFrom_even heven, powFrom_odd hnext, hdigits]
      exact units_powFrom_mono hp hsquare hfactor (Nat.le_refl _) _
    · -- Both go on with the next digit, the one with a product not above the next square.
      have hhalf : n / 2 < n := by omega
      have hproduct : (p.mul s).units ≤ (s.mul s).units := units_mul_mono hp hs hps (Nat.le_refl _)
      have hnext : (n + 1) % 2 = 0 := by omega
      have hdigits : (n + 1) / 2 = n / 2 + 1 := by omega
      rw [powFrom_odd hodd, powFrom_even hnext, hdigits]
      exact ih _ hhalf (unitsOfOne_le_mul hp hs) hproduct

/-- Powers of a double that is at least one do not fall as the exponent grows. -/
theorem units_pow_mono (ha : unitsOfOne ≤ a.units) (h : m ≤ n) :
    (a.pow m).units ≤ (a.pow n).units := by
  have hone : unitsOfOne ≤ one.units := units_one.ge
  have hbase : one.units ≤ a.units := units_one.trans_le ha
  induction h with
  | refl => exact Nat.le_refl _
  | step _ ih => exact Nat.le_trans ih (units_powFrom_le_succ hone hone hbase _)

/-- The powers of a base from one on are from one on. -/
theorem unitsOfOne_le_pow (ha : unitsOfOne ≤ a.units) : unitsOfOne ≤ (a.pow n).units :=
  calc
    unitsOfOne = (a.pow 0).units := by rw [pow, powFrom_zero, units_one]
    _ ≤ (a.pow n).units := units_pow_mono ha (Nat.zero_le n)

theorem pow_zero_eq : a.pow 0 = one := powFrom_zero one a

end ControlLoop.Binary64
