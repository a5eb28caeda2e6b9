import ControlLoop.Config.Basic
import ControlLoop.Proofs.Binary64.Power

/-!
# Delays

The delays of a valid backoff do not fall as failures accumulate: the factor is at least one, so
that its powers do not fall, and the product with the first delay, the limit and the cut to a word
keep the order. A delay lies between the first and the greatest one as they are when they have been
rounded to doubles. So it can only leave the bounds that the backoff names where it is one of those
two, and the rounding has moved that one outwards.
-/

namespace ControlLoop

namespace Backoff

open Binary64

/-- What validation makes sure of. -/
structure Valid (b : Backoff) : Prop where
  initial_pos : 0 < b.initial
  initial_le_max : b.initial ≤ b.max
  multiplier : unitsOfOne ≤ b.multiplier.units

variable {b : Backoff} {f g : UInt32}

/-- What validates is valid. -/
theorem valid_of_validate (h : b.validate = .ok ()) : b.Valid := by
  unfold validate at h
  split at h
  · cases h
  · next hinitial =>
    split at h
    · cases h
    · next hmax =>
      split at h
      · cases h
      · next hmultiplier =>
        rw [Bool.or_eq_true, not_or, Bool.not_eq_true', Bool.not_eq_false, Bool.not_eq_true]
          at hmultiplier
        exact ⟨UInt64.pos_iff_ne_zero.2 hinitial, UInt64.not_lt.1 hmax,
          unitsOfOne_le_of_not_less hmultiplier.1 hmultiplier.2⟩

theorem exponent_mono (h : f ≤ g) : exponent f ≤ exponent g := by
  have hnat : f.toNat ≤ g.toNat := UInt32.le_iff_toNat_le.1 h
  unfold exponent
  omega

namespace Valid

variable (h : b.Valid)
include h

theorem unitsOfOne_le_initial : unitsOfOne ≤ (ofNat b.initial.toNat).units :=
  unitsOfOne_le_ofNat (UInt64.lt_iff_toNat_lt.1 h.initial_pos)

theorem unitsOfOne_le_max : unitsOfOne ≤ (ofNat b.max.toNat).units :=
  Nat.le_trans h.unitsOfOne_le_initial
    (units_ofNat_mono (UInt64.le_iff_toNat_le.1 h.initial_le_max))

theorem unitsOfOne_le_product (n : Nat) :
    unitsOfOne ≤ ((ofNat b.initial.toNat).mul (b.multiplier.pow n)).units :=
  unitsOfOne_le_mul h.unitsOfOne_le_initial (unitsOfOne_le_pow h.multiplier)

/-- The delay has grown to some number of units if the product and the limit have. -/
theorem le_units_rawMillis_iff {n : Nat} :
    n ≤ (b.rawMillis f).units ↔
      n ≤ ((ofNat b.initial.toNat).mul (b.multiplier.pow (exponent f))).units ∧
        n ≤ (ofNat b.max.toNat).units :=
  le_units_min_iff (Nat.lt_of_lt_of_le unitsOfOne_pos (h.unitsOfOne_le_product _))
    (Nat.lt_of_lt_of_le unitsOfOne_pos h.unitsOfOne_le_max)

/-- More failures do not make the double smaller that the delay is made of. -/
theorem units_rawMillis_mono (hfg : f ≤ g) : (b.rawMillis f).units ≤ (b.rawMillis g).units := by
  obtain ⟨hproduct, hmax⟩ := h.le_units_rawMillis_iff.1 (Nat.le_refl (b.rawMillis f).units)
  refine h.le_units_rawMillis_iff.2 ⟨Nat.le_trans hproduct ?_, hmax⟩
  exact units_mul_mono h.unitsOfOne_le_initial (unitsOfOne_le_pow h.multiplier) (Nat.le_refl _)
    (units_pow_mono h.multiplier (exponent_mono hfg))

theorem initial_le_rawMillis : (ofNat b.initial.toNat).units ≤ (b.rawMillis f).units :=
  h.le_units_rawMillis_iff.2
    ⟨units_le_mul_right h.unitsOfOne_le_initial (unitsOfOne_le_pow h.multiplier),
      units_ofNat_mono (UInt64.le_iff_toNat_le.1 h.initial_le_max)⟩

/-- The double that the delay is made of is at most the double of the largest delay. -/
theorem rawMillis_le_max : (b.rawMillis f).units ≤ (ofNat b.max.toNat).units :=
  (h.le_units_rawMillis_iff.1 (Nat.le_refl _)).2

/-- No delay is zero. -/
theorem delayMillis_pos : 0 < b.delayMillis f := by
  have hone : 1 ≤ b.delayMillis f := by
    apply le_toWord_iff.2
    calc
      (1 : UInt64).toNat * unitsOfOne = unitsOfOne := Nat.one_mul _
      _ ≤ (ofNat b.initial.toNat).units := h.unitsOfOne_le_initial
      _ ≤ (b.rawMillis f).units := h.initial_le_rawMillis
  exact UInt64.lt_of_lt_of_le (by decide) hone

/-- More failures do not make a delay shorter. -/
theorem delayMillis_mono (hfg : f ≤ g) : b.delayMillis f ≤ b.delayMillis g :=
  toWord_mono (h.units_rawMillis_mono hfg)

/-- No delay is shorter than the first one as a double can hold it. -/
theorem roundWord_initial_le : roundWord b.initial ≤ b.delayMillis f :=
  toWord_mono h.initial_le_rawMillis

/-- No delay is longer than the largest one as a double can hold it. -/
theorem le_roundWord_max : b.delayMillis f ≤ roundWord b.max :=
  toWord_mono h.rawMillis_le_max

/-- The first delay is not grown. -/
theorem delayMillis_one : b.delayMillis 1 = roundWord b.initial := by
  apply UInt64.le_antisymm
  · apply toWord_mono
    calc
      (b.rawMillis 1).units ≤ ((ofNat b.initial.toNat).mul (b.multiplier.pow 0)).units :=
        (h.le_units_rawMillis_iff.1 (Nat.le_refl _)).1
      _ = ((ofNat b.initial.toNat).mul one).units := by rw [pow_zero_eq]
      _ = (ofNat b.initial.toNat).units := units_mul_one h.unitsOfOne_le_initial
  · exact h.roundWord_initial_le

/-- The delay is too short only where it is the first one and that was rounded down. -/
theorem initial_le_delayMillis_iff :
    b.initial ≤ b.delayMillis f ↔
      ¬(b.delayMillis f = roundWord b.initial ∧ roundWord b.initial < b.initial) := by
  constructor
  · rintro hle ⟨heq, hlt⟩
    rw [heq] at hle
    exact UInt64.not_le.2 hlt hle
  · intro hnot
    apply UInt64.not_lt.1
    intro hlt
    have heq : b.delayMillis f = roundWord b.initial :=
      UInt64.le_antisymm (le_roundWord hlt) h.roundWord_initial_le
    exact hnot ⟨heq, heq ▸ hlt⟩

/-- The delay is too long only where it is the greatest one and that was rounded up. -/
theorem delayMillis_le_max_iff :
    b.delayMillis f ≤ b.max ↔
      ¬(b.delayMillis f = roundWord b.max ∧ b.max < roundWord b.max) := by
  constructor
  · rintro hle ⟨heq, hlt⟩
    rw [heq] at hle
    exact UInt64.not_le.2 hlt hle
  · intro hnot
    apply UInt64.not_lt.1
    intro hlt
    have heq : b.delayMillis f = roundWord b.max :=
      UInt64.le_antisymm h.le_roundWord_max (roundWord_le (UInt64.le_of_lt hlt))
    exact hnot ⟨heq, heq ▸ hlt⟩

end Valid

theorem initialDelay_le_delayFor_iff :
    b.initialDelay ≤ b.delayFor f ↔ b.initial ≤ b.delayMillis f :=
  Duration.ofMillis_le_ofMillis_iff.trans UInt64.le_iff_toNat_le.symm

theorem delayFor_le_maxDelay_iff : b.delayFor f ≤ b.maxDelay ↔ b.delayMillis f ≤ b.max :=
  Duration.ofMillis_le_ofMillis_iff.trans UInt64.le_iff_toNat_le.symm

/-- With a valid backoff every delay is positive and none is followed by a shorter one. -/
theorem delayFor_pos_and_mono (h : b.validate = .ok ()) :
    b.delayFor 0 = b.delayFor 1 ∧
      ∀ f g, f ≤ g → Duration.ofMillis 0 < b.delayFor f ∧ b.delayFor f ≤ b.delayFor g := by
  have hvalid := valid_of_validate h
  constructor
  · rfl
  · intro f g hfg
    constructor
    · rw [delayFor, Duration.ofMillis_lt_ofMillis_iff]
      exact UInt64.lt_iff_toNat_lt.1 hvalid.delayMillis_pos
    · rw [delayFor, delayFor, Duration.ofMillis_le_ofMillis_iff]
      exact UInt64.le_iff_toNat_le.1 (hvalid.delayMillis_mono hfg)

/-- Grows by the least factor above one, from a first delay that is not a double. -/
def creeping : Backoff where
  initial := 9007199254740993
  max := 18446744073709551615
  multiplier := .finite false (unitsOfOne + spacing unitsOfOne) (by decide +kernel)

/-- With the least factor above one the delays do not shrink up to the last count. -/
theorem delayFor_pos_and_mono_creeping :
    creeping.validate = .ok () ∧ creeping.delayFor 0 = creeping.delayFor 1 ∧
      Duration.ofMillis 0 < creeping.delayFor 3 ∧
      creeping.delayFor 3 ≤ creeping.delayFor 4294967295 := by
  have hvalid : creeping.validate = .ok () := by decide +kernel
  obtain ⟨hzero, hgrows⟩ := delayFor_pos_and_mono hvalid
  exact ⟨hvalid, hzero, hgrows 3 4294967295 (by decide)⟩

/-- The delays of a valid backoff begin with the first one as it is as a double and never exceed the
greatest one as it is as a double. They are out of the bounds that the backoff names only where they
are one of these two and that one has been rounded out of them. -/
theorem delayFor_within_iff (h : b.validate = .ok ()) (f : UInt32) :
    b.delayMillis 1 = roundWord b.initial ∧
      roundWord b.initial ≤ b.delayMillis f ∧ b.delayMillis f ≤ roundWord b.max ∧
      (b.initialDelay ≤ b.delayFor f ∧ b.delayFor f ≤ b.maxDelay ↔
        ¬(b.delayMillis f = roundWord b.initial ∧ roundWord b.initial < b.initial) ∧
          ¬(b.delayMillis f = roundWord b.max ∧ b.max < roundWord b.max)) := by
  have hvalid := valid_of_validate h
  refine ⟨hvalid.delayMillis_one, hvalid.roundWord_initial_le, hvalid.le_roundWord_max, ?_⟩
  rw [initialDelay_le_delayFor_iff, delayFor_le_maxDelay_iff]
  exact and_congr hvalid.initial_le_delayMillis_iff hvalid.delayMillis_le_max_iff

/-- From the third failure on the delay has outgrown the rounding of the first one. -/
theorem delayFor_within_iff_creeping :
    creeping.validate = .ok () ∧ creeping.initialDelay ≤ creeping.delayFor 3 ∧
      creeping.delayFor 3 ≤ creeping.maxDelay := by
  have hvalid : creeping.validate = .ok () := by decide +kernel
  obtain ⟨-, -, -, hwithin⟩ := delayFor_within_iff hvalid 3
  exact ⟨hvalid, hwithin.2 ⟨by decide +kernel, by decide +kernel⟩⟩

/-- A backoff whose only delay is both the first and the greatest one. -/
def steady (n : UInt64) : Backoff := ⟨n, n, Binary64.ofNat 2⟩

/-- The one delay is rounded down below itself, the other one up above itself. -/
theorem steady_out_of_bounds :
    (steady 9007199254740993).validate = .ok () ∧
      ¬(steady 9007199254740993).initialDelay ≤ (steady 9007199254740993).delayFor 1 ∧
      (steady 9007199254740995).validate = .ok () ∧
      ¬(steady 9007199254740995).delayFor 1 ≤ (steady 9007199254740995).maxDelay := by
  decide +kernel

/-- Bounds of at most 53 bits are kept. -/
theorem Valid.delayFor_within_of_lt (h : b.Valid) (hmax : b.max.toNat < 1 <<< 53) :
    b.initialDelay ≤ b.delayFor f ∧ b.delayFor f ≤ b.maxDelay := by
  have hinitial : b.initial.toNat < 1 <<< 53 :=
    Nat.lt_of_le_of_lt (UInt64.le_iff_toNat_le.1 h.initial_le_max) hmax
  rw [initialDelay_le_delayFor_iff, delayFor_le_maxDelay_iff]
  constructor
  · calc
      b.initial = roundWord b.initial := (roundWord_of_lt hinitial).symm
      _ ≤ b.delayMillis f := h.roundWord_initial_le
  · calc
      b.delayMillis f ≤ roundWord b.max := h.le_roundWord_max
      _ = b.max := roundWord_of_lt hmax

end Backoff

end ControlLoop
