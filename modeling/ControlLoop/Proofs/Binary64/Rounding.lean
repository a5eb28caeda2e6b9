import ControlLoop.Binary64.Basic
import Mathlib.Data.Nat.Log

/-!
# Rounding

A ratio is rounded on the grid of the doubles around it. Rounding never crosses a point of that
grid, and where the grid changes there is a power of two that is on both of its sides. So rounding
keeps the order of ratios, leaves alone what is a double, and gives a double unless it is too large.
-/

namespace ControlLoop.Binary64

variable {a b d m n : Nat}

theorem div_le_nearest : a / d ≤ nearest a d := by
  unfold nearest
  dsimp only
  split
  · exact Nat.le_refl _
  · split
    · exact Nat.le_succ _
    · exact Nat.le_add_right _ _

theorem nearest_le_succ : nearest a d ≤ a / d + 1 := by
  unfold nearest
  dsimp only
  split
  · exact Nat.le_succ _
  · split
    · exact Nat.le_refl _
    · have hparity := Nat.mod_lt (a / d) Nat.two_pos
      omega

/-- A quotient that is a whole number is its own nearest one. -/
theorem nearest_mul (hd : 0 < d) : nearest (n * d) d = n := by
  unfold nearest
  rw [Nat.mul_div_cancel n hd, Nat.mul_mod_left]
  exact if_pos hd

/-- Of two ratios with the same whole part the remainders decide. -/
theorem nearest_mono (h : a ≤ b) : nearest a d ≤ nearest b d := by
  obtain hquotient | hquotient := Nat.lt_or_eq_of_le (Nat.div_le_div_right (c := d) h)
  · calc
      nearest a d ≤ a / d + 1 := nearest_le_succ
      _ ≤ b / d := hquotient
      _ ≤ nearest b d := div_le_nearest
  · have hremainder : a % d ≤ b % d := by
      have ha := Nat.div_add_mod a d
      have hb := Nat.div_add_mod b d
      rw [hquotient] at ha
      omega
    unfold nearest
    rw [hquotient]
    generalize b / d = q
    generalize a % d = r at hremainder ⊢
    generalize b % d = s at hremainder ⊢
    dsimp only
    split_ifs <;> omega

/-- Rounding does not pass a whole number that bounds the quotient from above. -/
theorem nearest_le (hd : 0 < d) (h : a ≤ n * d) : nearest a d ≤ n :=
  calc
    nearest a d ≤ nearest (n * d) d := nearest_mono h
    _ = n := nearest_mul hd

/-- Rounding does not pass a whole number that bounds the quotient from below. -/
theorem le_nearest (hd : 0 < d) (h : n * d ≤ a) : n ≤ nearest a d :=
  calc
    n = nearest (n * d) d := (nearest_mul hd).symm
    _ ≤ nearest a d := nearest_mono h

theorem log2_mono (h : m ≤ n) : m.log2 ≤ n.log2 := by
  rw [Nat.log2_eq_log_two, Nat.log2_eq_log_two]
  exact Nat.log_mono_right h

theorem log2_le_of_lt {k : Nat} (h : n < 1 <<< (k + 1)) : n.log2 ≤ k := by
  by_cases hzero : n = 0
  · rw [hzero, Nat.log2_zero]
    exact Nat.zero_le _
  · rw [Nat.one_shiftLeft] at h
    exact Nat.le_of_lt_succ ((Nat.log2_lt hzero).2 h)

theorem shiftLeft_dvd_shiftLeft {j k : Nat} (h : j ≤ k) : 1 <<< j ∣ 1 <<< k := by
  rw [Nat.one_shiftLeft, Nat.one_shiftLeft]
  exact Nat.pow_dvd_pow 2 h

theorem shiftLeft_pos (k : Nat) : 0 < 1 <<< k := by
  rw [Nat.one_shiftLeft]
  exact Nat.two_pow_pos k

theorem spacing_pos : 0 < spacing n := shiftLeft_pos _

/-- The spacing of smaller numbers divides that of larger ones. -/
theorem spacing_dvd_spacing (h : m.log2 ≤ n.log2) : spacing m ∣ spacing n :=
  shiftLeft_dvd_shiftLeft (Nat.sub_le_sub_right h 52)

theorem spacing_dvd_shiftLeft {k : Nat} (h : n.log2 ≤ k + 52) : spacing n ∣ 1 <<< k :=
  shiftLeft_dvd_shiftLeft (Nat.sub_le_of_le_add h)

/-- Rounding does not go beyond a point of the grid above the ratio. -/
theorem roundRatio_le (hd : 0 < d) (hgrid : spacing (a / d) ∣ n) (h : a ≤ n * d) :
    roundRatio a d ≤ n := by
  obtain ⟨k, rfl⟩ := hgrid
  have hstep : 0 < d * spacing (a / d) := Nat.mul_pos hd spacing_pos
  have hk : a ≤ k * (d * spacing (a / d)) := by
    calc
      a ≤ spacing (a / d) * k * d := h
      _ = k * (d * spacing (a / d)) := by ac_rfl
  calc
    roundRatio a d = nearest a (d * spacing (a / d)) * spacing (a / d) := rfl
    _ ≤ k * spacing (a / d) := Nat.mul_le_mul_right _ (nearest_le hstep hk)
    _ = spacing (a / d) * k := Nat.mul_comm _ _

/-- Rounding does not go below a point of the grid that the ratio has reached. -/
theorem le_roundRatio (hd : 0 < d) (hgrid : spacing (a / d) ∣ n) (h : n * d ≤ a) :
    n ≤ roundRatio a d := by
  obtain ⟨k, rfl⟩ := hgrid
  have hstep : 0 < d * spacing (a / d) := Nat.mul_pos hd spacing_pos
  have hk : k * (d * spacing (a / d)) ≤ a := by
    calc
      k * (d * spacing (a / d)) = spacing (a / d) * k * d := by ac_rfl
      _ ≤ a := h
  calc
    spacing (a / d) * k = k * spacing (a / d) := Nat.mul_comm _ _
    _ ≤ nearest a (d * spacing (a / d)) * spacing (a / d) :=
      Nat.mul_le_mul_right _ (le_nearest hstep hk)
    _ = roundRatio a d := rfl

/-- What is a double is not rounded. -/
theorem roundRatio_mul (hd : 0 < d) (h : spacing n ∣ n) : roundRatio (n * d) d = n := by
  have hgrid : spacing (n * d / d) ∣ n := by rwa [Nat.mul_div_cancel n hd]
  exact Nat.le_antisymm (roundRatio_le hd hgrid (Nat.le_refl _))
    (le_roundRatio hd hgrid (Nat.le_refl _))

/-- Between ratios of different magnitude lies the power of two at which the greater one begins. -/
theorem roundRatio_mono_of_log2_lt (hd : 0 < d) (h : (a / d).log2 < (b / d).log2) :
    roundRatio a d ≤ roundRatio b d := by
  have hne {q k : Nat} (hlog : k < q.log2) : q ≠ 0 := by
    rintro rfl
    exact Nat.not_lt_zero k hlog
  have hbelow : a / d < 1 <<< (b / d).log2 := by
    by_cases hzero : a / d = 0
    · rw [hzero]
      exact shiftLeft_pos _
    · rw [Nat.one_shiftLeft]
      exact (Nat.log2_lt hzero).1 h
  have habove : 1 <<< (b / d).log2 ≤ b / d := by
    rw [Nat.one_shiftLeft]
    exact Nat.log2_self_le (hne h)
  calc
    roundRatio a d ≤ 1 <<< (b / d).log2 :=
      roundRatio_le hd (spacing_dvd_shiftLeft (by omega))
        (Nat.le_of_lt ((Nat.div_lt_iff_lt_mul hd).1 hbelow))
    _ ≤ roundRatio b d :=
      le_roundRatio hd (spacing_dvd_shiftLeft (by omega)) ((Nat.le_div_iff_mul_le hd).1 habove)

/-- A larger quotient is not rounded to less. -/
theorem roundRatio_mono (hd : 0 < d) (h : a ≤ b) : roundRatio a d ≤ roundRatio b d := by
  have hlog : (a / d).log2 ≤ (b / d).log2 := log2_mono (Nat.div_le_div_right h)
  obtain hlog | hlog := Nat.lt_or_eq_of_le hlog
  · exact roundRatio_mono_of_log2_lt hd hlog
  · unfold roundRatio spacing
    rw [hlog]
    exact Nat.mul_le_mul_right _ (nearest_mono h)

/-- A ratio is rounded to a double, if need be to the power of two at which the grid gets
coarser. -/
theorem spacing_dvd_roundRatio (hd : 0 < d) :
    spacing (roundRatio a d) ∣ roundRatio a d := by
  have hnext : a / d < 1 <<< ((a / d).log2 + 1) := by
    rw [Nat.one_shiftLeft]
    exact Nat.lt_log2_self
  have hle : roundRatio a d ≤ 1 <<< ((a / d).log2 + 1) :=
    roundRatio_le hd (spacing_dvd_shiftLeft (by omega))
      (Nat.le_of_lt ((Nat.div_lt_iff_lt_mul hd).1 hnext))
  obtain hlt | heq := Nat.lt_or_eq_of_le hle
  · have hlog : (roundRatio a d).log2 ≤ (a / d).log2 := log2_le_of_lt hlt
    exact Nat.dvd_trans (spacing_dvd_spacing hlog) (Nat.dvd_mul_left _ _)
  · rw [heq]
    apply spacing_dvd_shiftLeft
    rw [Nat.one_shiftLeft, Nat.log2_two_pow]
    exact Nat.le_add_right _ _

end ControlLoop.Binary64
