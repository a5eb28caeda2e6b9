import ControlLoop.Proofs.Binary64.Rounding

/-!
# Units of doubles

The doubles from zero up to infinity are known by their units, infinity having the first number of
units that is too large for a double. A product of doubles that are at least one is the exact
product of their units, rounded and cut off there, also if it overflows or a factor is infinite. So
products keep the order of such doubles and are at least as large as each of their factors.
-/

namespace ControlLoop.Binary64

/-- The units of infinity: no double has as many. -/
def limit : Nat := 1 <<< 2098

/-- The units of a double without a sign; the others have none. -/
def units : Binary64 → Nat
  | .finite false n _ => n
  | .infinite false => limit
  | _ => 0

/-- Whatever is too large for a double counts as infinite. -/
def capped (n : Nat) : Nat := if n < limit then n else limit

variable {x y x' y' : Binary64} {a d m n : Nat}

theorem capped_of_le (h : n ≤ limit) : capped n = n := by
  unfold capped
  split <;> omega

theorem capped_of_limit_le (h : limit ≤ n) : capped n = limit :=
  if_neg (Nat.not_lt.2 h)

theorem capped_mono (h : m ≤ n) : capped m ≤ capped n := by
  unfold capped
  split <;> split <;> omega

theorem unitsOfOne_pos : 0 < unitsOfOne := shiftLeft_pos 1074

theorem unitsOfOne_lt_limit : unitsOfOne < limit := by decide +kernel

theorem units_le_limit : x.units ≤ limit := by
  cases x with
  | nan => exact Nat.zero_le _
  | infinite negative =>
    cases negative with
    | false => exact Nat.le_refl _
    | true => exact Nat.zero_le _
  | finite negative n hn =>
    cases negative with
    | false => exact Nat.le_of_lt hn.1
    | true => exact Nat.zero_le _

/-- The units of a double are a multiple of the spacing at its size. -/
theorem spacing_dvd_units : spacing x.units ∣ x.units := by
  cases x with
  | nan => exact Nat.dvd_zero _
  | infinite negative =>
    cases negative with
    | false => exact spacing_dvd_shiftLeft (by decide +kernel)
    | true => exact Nat.dvd_zero _
  | finite negative n hn =>
    cases negative with
    | false => exact hn.2
    | true => exact Nat.dvd_zero _

/-- A double with units is infinite or has them as its own. -/
theorem eq_of_units_pos (h : 0 < x.units) :
    x = .infinite false ∨ ∃ hx, x = .finite false x.units hx := by
  cases x with
  | nan => exact absurd h (Nat.lt_irrefl 0)
  | infinite negative =>
    cases negative with
    | false => exact .inl rfl
    | true => exact absurd h (Nat.lt_irrefl 0)
  | finite negative n hn =>
    cases negative with
    | false => exact .inr ⟨hn, rfl⟩
    | true => exact absurd h (Nat.lt_irrefl 0)

/-- A ratio has the units to which it is rounded, unless it is too large. -/
theorem units_ofRatio (hd : 0 < d) : (ofRatio false a d).units = capped (roundRatio a d) := by
  unfold ofRatio
  dsimp only
  split
  · next h => exact (capped_of_le (Nat.le_of_lt h.1)).symm
  · next h =>
    have hlarge : limit ≤ roundRatio a d := by
      apply Nat.le_of_not_lt
      intro hlt
      exact h ⟨hlt, spacing_dvd_roundRatio hd⟩
    exact (capped_of_limit_le hlarge).symm

/-! ## Whole numbers -/

theorem units_ofNat : (ofNat n).units = capped (roundRatio (n * unitsOfOne) 1) :=
  units_ofRatio Nat.one_pos

/-- A larger number does not become a smaller double. -/
theorem units_ofNat_mono (h : m ≤ n) : (ofNat m).units ≤ (ofNat n).units := by
  rw [units_ofNat, units_ofNat]
  exact capped_mono (roundRatio_mono Nat.one_pos (Nat.mul_le_mul_right _ h))

/-- A number that doubles can hold becomes itself, unless it is too large. -/
theorem units_ofNat_of_spacing (h : spacing (n * unitsOfOne) ∣ n * unitsOfOne) :
    (ofNat n).units = capped (n * unitsOfOne) :=
  calc
    (ofNat n).units = capped (roundRatio (n * unitsOfOne * 1) 1) := by
      rw [Nat.mul_one]
      exact units_ofNat
    _ = capped (n * unitsOfOne) := by rw [roundRatio_mul Nat.one_pos h]

theorem units_one : one.units = unitsOfOne := by
  have hgrid : spacing (1 * unitsOfOne) ∣ 1 * unitsOfOne := by
    rw [Nat.one_mul]
    exact spacing_dvd_shiftLeft (by decide +kernel)
  calc
    one.units = capped (1 * unitsOfOne) := units_ofNat_of_spacing hgrid
    _ = capped unitsOfOne := by rw [Nat.one_mul]
    _ = unitsOfOne := capped_of_le (Nat.le_of_lt unitsOfOne_lt_limit)

theorem unitsOfOne_le_ofNat (h : 0 < n) : unitsOfOne ≤ (ofNat n).units :=
  calc
    unitsOfOne = (ofNat 1).units := units_one.symm
    _ ≤ (ofNat n).units := units_ofNat_mono h

/-- A double that has reached a whole number has reached what the number is rounded to. -/
theorem units_ofNat_le (h : n * unitsOfOne ≤ x.units) : (ofNat n).units ≤ x.units :=
  calc
    (ofNat n).units = capped (roundRatio (n * unitsOfOne) 1) := units_ofNat
    _ ≤ capped (roundRatio (x.units * 1) 1) := by
      rw [Nat.mul_one]
      exact capped_mono (roundRatio_mono Nat.one_pos h)
    _ = capped x.units := by rw [roundRatio_mul Nat.one_pos spacing_dvd_units]
    _ = x.units := capped_of_le units_le_limit

/-- A double that does not exceed a whole number does not exceed what the number is rounded to. -/
theorem le_units_ofNat (h : x.units ≤ n * unitsOfOne) : x.units ≤ (ofNat n).units :=
  calc
    x.units = capped x.units := (capped_of_le units_le_limit).symm
    _ = capped (roundRatio (x.units * 1) 1) := by
      rw [roundRatio_mul Nat.one_pos spacing_dvd_units]
    _ ≤ capped (roundRatio (n * unitsOfOne) 1) := by
      rw [Nat.mul_one]
      exact capped_mono (roundRatio_mono Nat.one_pos h)
    _ = (ofNat n).units := units_ofNat.symm

/-! ## Products -/

/-- With a factor of one nothing is rounded. -/
theorem roundRatio_unitsOfOne_mul : roundRatio (unitsOfOne * x.units) unitsOfOne = x.units := by
  rw [Nat.mul_comm]
  exact roundRatio_mul unitsOfOne_pos spacing_dvd_units

theorem le_roundRatio_mul (hx : unitsOfOne ≤ x.units) :
    y.units ≤ roundRatio (x.units * y.units) unitsOfOne :=
  calc
    y.units = roundRatio (unitsOfOne * y.units) unitsOfOne := roundRatio_unitsOfOne_mul.symm
    _ ≤ roundRatio (x.units * y.units) unitsOfOne :=
      roundRatio_mono unitsOfOne_pos (Nat.mul_le_mul_right _ hx)

/-- The product of doubles from one on is their exact product, rounded and capped. -/
theorem units_mul (hx : unitsOfOne ≤ x.units) (hy : unitsOfOne ≤ y.units) :
    (x.mul y).units = capped (roundRatio (x.units * y.units) unitsOfOne) := by
  have hxpos : 0 < x.units := Nat.lt_of_lt_of_le unitsOfOne_pos hx
  have hypos : 0 < y.units := Nat.lt_of_lt_of_le unitsOfOne_pos hy
  -- An infinite factor makes the product infinite, and the exact product is too large as well.
  have hleft (hlimit : x.units = limit) :
      capped (roundRatio (x.units * y.units) unitsOfOne) = limit := by
    apply capped_of_limit_le
    rw [← hlimit, Nat.mul_comm]
    exact le_roundRatio_mul hy
  have hright (hlimit : y.units = limit) :
      capped (roundRatio (x.units * y.units) unitsOfOne) = limit := by
    apply capped_of_limit_le
    rw [← hlimit]
    exact le_roundRatio_mul hx
  obtain rfl | ⟨hm, hxeq⟩ := eq_of_units_pos hxpos
  · rw [hleft rfl]
    obtain rfl | ⟨hn, hyeq⟩ := eq_of_units_pos hypos
    · rfl
    · rw [hyeq]
      simp only [mul, if_neg (Nat.ne_of_gt hypos)]
      rfl
  · obtain rfl | ⟨hn, hyeq⟩ := eq_of_units_pos hypos
    · rw [hright rfl, hxeq]
      simp only [mul, if_neg (Nat.ne_of_gt hxpos)]
      rfl
    · have hmul : x.mul y = ofRatio false (x.units * y.units) unitsOfOne := by
        rw [hxeq, hyeq]
        rfl
      rw [hmul, units_ofRatio unitsOfOne_pos]

/-- Larger factors from one on do not make a smaller product. -/
theorem units_mul_mono (hx : unitsOfOne ≤ x.units) (hy : unitsOfOne ≤ y.units)
    (hxx : x.units ≤ x'.units) (hyy : y.units ≤ y'.units) :
    (x.mul y).units ≤ (x'.mul y').units := by
  rw [units_mul hx hy, units_mul (Nat.le_trans hx hxx) (Nat.le_trans hy hyy)]
  exact capped_mono (roundRatio_mono unitsOfOne_pos (Nat.mul_le_mul hxx hyy))

/-- A factor from one on does not make the other factor smaller. -/
theorem units_le_mul_left (hx : unitsOfOne ≤ x.units) (hy : unitsOfOne ≤ y.units) :
    y.units ≤ (x.mul y).units :=
  calc
    y.units = capped y.units := (capped_of_le units_le_limit).symm
    _ ≤ capped (roundRatio (x.units * y.units) unitsOfOne) := capped_mono (le_roundRatio_mul hx)
    _ = (x.mul y).units := (units_mul hx hy).symm

theorem units_le_mul_right (hx : unitsOfOne ≤ x.units) (hy : unitsOfOne ≤ y.units) :
    x.units ≤ (x.mul y).units :=
  calc
    x.units ≤ (y.mul x).units := units_le_mul_left hy hx
    _ = (x.mul y).units := by rw [units_mul hy hx, units_mul hx hy, Nat.mul_comm]

/-- One times a double is the double. -/
theorem units_mul_one (hx : unitsOfOne ≤ x.units) : (x.mul one).units = x.units :=
  calc
    (x.mul one).units = capped (roundRatio (unitsOfOne * x.units) unitsOfOne) := by
      rw [units_mul hx units_one.ge, units_one, Nat.mul_comm]
    _ = capped x.units := by rw [roundRatio_unitsOfOne_mul]
    _ = x.units := capped_of_le units_le_limit

/-! ## Comparison and conversion -/

/-- Positive doubles are compared as their units are. -/
theorem less_iff (hx : 0 < x.units) (hy : 0 < y.units) : x.less y = true ↔ x.units < y.units := by
  obtain rfl | ⟨hm, hxeq⟩ := eq_of_units_pos hx
  · have hnot : ¬(infinite false).units < y.units := Nat.not_lt.2 units_le_limit
    obtain rfl | ⟨hn, hyeq⟩ := eq_of_units_pos hy
    · exact iff_of_false Bool.false_ne_true hnot
    · rw [hyeq] at hnot ⊢
      exact iff_of_false Bool.false_ne_true hnot
  · obtain rfl | ⟨hn, hyeq⟩ := eq_of_units_pos hy
    · rw [hxeq]
      exact iff_of_true rfl hm.1
    · rw [hxeq, hyeq]
      simp [less, signedUnits, units]

theorem min_eq (hx : 0 < x.units) (hy : 0 < y.units) :
    x.min y = if y.less x then y else x := by
  obtain rfl | ⟨hm, hxeq⟩ := eq_of_units_pos hx
  · obtain rfl | ⟨hn, hyeq⟩ := eq_of_units_pos hy
    · rfl
    · rw [hyeq]
      rfl
  · obtain rfl | ⟨hn, hyeq⟩ := eq_of_units_pos hy
    · rw [hxeq]
      rfl
    · rw [hxeq, hyeq]
      rfl

/-- What is below the smaller of two positive doubles is below both. -/
theorem le_units_min_iff (hx : 0 < x.units) (hy : 0 < y.units) :
    n ≤ (x.min y).units ↔ n ≤ x.units ∧ n ≤ y.units := by
  have hless := less_iff hy hx
  rw [min_eq hx hy]
  split
  · next h =>
    have hlt := hless.1 h
    omega
  · next h =>
    have hle := Nat.le_of_not_lt (mt hless.2 h)
    omega

/-- A double becomes a word by leaving out its fraction, up to the largest word. -/
theorem toNat_toWord : x.toWord.toNat = Nat.min (x.units / unitsOfOne) (UInt64.size - 1) := by
  have hzero : (0 : UInt64).toNat = Nat.min (0 / unitsOfOne) (UInt64.size - 1) := by
    rw [Nat.zero_div]
    rfl
  cases x with
  | nan => exact hzero
  | infinite negative =>
    cases negative with
    | false => decide +kernel
    | true => exact hzero
  | finite negative m hm =>
    cases negative with
    | false =>
      change (UInt64.ofNat (Nat.min (m / unitsOfOne) (UInt64.size - 1))).toNat = _
      rw [UInt64.toNat_ofNat']
      apply Nat.mod_eq_of_lt
      calc
        Nat.min (m / unitsOfOne) (UInt64.size - 1) ≤ UInt64.size - 1 := Nat.min_le_right _ _
        _ < UInt64.size := by decide
    | true => exact hzero

/-- The cut to a word gives the greatest word that the double has reached. -/
theorem le_toWord_iff {n : UInt64} : n ≤ x.toWord ↔ n.toNat * unitsOfOne ≤ x.units := by
  have hn : n.toNat ≤ UInt64.size - 1 := Nat.le_pred_of_lt n.toNat_lt
  rw [UInt64.le_iff_toNat_le, toNat_toWord]
  calc
    n.toNat ≤ Nat.min (x.units / unitsOfOne) (UInt64.size - 1) ↔
        n.toNat ≤ x.units / unitsOfOne ∧ n.toNat ≤ UInt64.size - 1 := Nat.le_min
    _ ↔ n.toNat ≤ x.units / unitsOfOne := and_iff_left hn
    _ ↔ n.toNat * unitsOfOne ≤ x.units := Nat.le_div_iff_mul_le unitsOfOne_pos

theorem toWord_mono (h : x.units ≤ y.units) : x.toWord ≤ y.toWord := by
  rw [le_toWord_iff]
  calc
    x.toWord.toNat * unitsOfOne ≤ x.units := le_toWord_iff.1 (UInt64.le_refl _)
    _ ≤ y.units := h

/-- What is left of a word that is made a double and cut to a word again. -/
def roundWord (n : UInt64) : UInt64 := (ofNat n.toNat).toWord

/-- A word that is at most the word of a double is so after rounding too. -/
theorem roundWord_le {n : UInt64} (h : n ≤ x.toWord) : roundWord n ≤ x.toWord :=
  toWord_mono (units_ofNat_le (le_toWord_iff.1 h))

theorem le_roundWord {n : UInt64} (h : x.toWord < n) : x.toWord ≤ roundWord n := by
  apply toWord_mono
  apply le_units_ofNat
  have hnot : ¬n.toNat * unitsOfOne ≤ x.units := mt le_toWord_iff.2 (UInt64.not_le.2 h)
  exact Nat.le_of_not_le hnot

/-- A word of at most 53 bits is a double. -/
theorem roundWord_of_lt {n : UInt64} (h : n.toNat < 1 <<< 53) : roundWord n = n := by
  have hsize : n.toNat * unitsOfOne < 1 <<< (1074 + 52 + 1) :=
    calc
      n.toNat * unitsOfOne < 1 <<< 53 * unitsOfOne := Nat.mul_lt_mul_of_pos_right h unitsOfOne_pos
      _ = 1 <<< (1074 + 52 + 1) := by decide +kernel
  have hgrid : spacing (n.toNat * unitsOfOne) ∣ n.toNat * unitsOfOne :=
    Nat.dvd_trans (spacing_dvd_shiftLeft (log2_le_of_lt hsize)) (Nat.dvd_mul_left _ _)
  have hlimit : n.toNat * unitsOfOne ≤ limit :=
    calc
      n.toNat * unitsOfOne ≤ 1 <<< (1074 + 52 + 1) := Nat.le_of_lt hsize
      _ ≤ limit := by decide +kernel
  have hunits : (ofNat n.toNat).units = n.toNat * unitsOfOne :=
    (units_ofNat_of_spacing hgrid).trans (capped_of_le hlimit)
  apply UInt64.le_antisymm
  · have hle := le_toWord_iff.1 (UInt64.le_refl (roundWord n))
    rw [hunits] at hle
    exact UInt64.le_iff_toNat_le.2 (Nat.le_of_mul_le_mul_right hle unitsOfOne_pos)
  · exact le_toWord_iff.2 (Nat.le_of_eq hunits.symm)

theorem exists_one_eq : ∃ h, one = .finite false one.units h := by
  have hpos : 0 < one.units := unitsOfOne_pos.trans_eq units_one.symm
  obtain hinfinite | hfinite := eq_of_units_pos hpos
  · have hlimit : limit = unitsOfOne := (congrArg units hinfinite).symm.trans units_one
    exact absurd hlimit (Nat.ne_of_gt unitsOfOne_lt_limit)
  · exact hfinite

/-- A finite double that is not less than one has at least the units of one. -/
theorem unitsOfOne_le_of_not_less (hfinite : x.isFinite = true) (h : x.less one = false) :
    unitsOfOne ≤ x.units := by
  obtain ⟨hone, hone_eq⟩ := exists_one_eq
  cases x with
  | nan => cases hfinite
  | infinite negative => cases hfinite
  | finite negative m hm =>
    have hnot : ¬signedUnits negative m < (unitsOfOne : Int) := by
      rw [hone_eq] at h
      rw [← units_one]
      exact of_decide_eq_false h
    cases negative with
    | false => simpa [signedUnits, units] using hnot
    | true =>
      have hpos := unitsOfOne_pos
      simp only [signedUnits, if_true] at hnot
      omega

end ControlLoop.Binary64
