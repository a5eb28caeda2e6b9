import ControlLoop.Proofs.Run.Joining
import ControlLoop.Proofs.Run.Moving

/-!
# Runs that are bounded and alone

A run that goes on alone is resumed whenever it is woken, in the world that it has left. A bounded
run does the same, and ends in one of two ways: with the value of the run, in the same world and at
the same instant, or, once the timer of the bound has fired, with nothing, in a world in which the
run alone comes to wait.
-/

namespace ControlLoop

variable {α : Type} {w : World} {u : Wake}

namespace Wake

variable {tick : Nat} {now later : Instant}

/-- A wake that finds its own timer fired, or a token cancelled, comes at the instant at which it
would come without the other timer. -/
theorem instant?_of_or_atTick (h : (u.or (.atTick tick)).instant? now w = some later)
    (hready : u.ready later w) : u.instant? now w = some later := by
  by_cases hnow : u.ready now w
  · have hor : (u.or (.atTick tick)).ready now w = true := by
      rw [ready_or, hnow, Bool.true_or]
    rw [instant?, if_pos hor] at h
    rw [instant?, if_pos hnow, h]
  · have hor : ¬ (u.or (.atTick tick)).ready now w := fun hor ↦ by
      rw [instant?, if_pos hor] at h
      cases h
      exact hnow hready
    rw [instant?, if_neg hor] at h
    rw [instant?, if_neg hnow]
    obtain ⟨timer, tokens⟩ := u
    simp only [ready, Bool.or_eq_true, not_or] at hnow hready
    have htimer := hready.resolve_right hnow.2
    cases timer with
    | none => exact absurd htimer Bool.false_ne_true
    | some t =>
      rw [ready_or_atTick] at hor
      simp only [ready, timerFired, Option.any_some, Bool.or_eq_true, decide_eq_true_eq, not_or]
        at hnow htimer hor
      obtain rfl : now.atTick (min t tick) = later := Option.some.inj h
      rw [Instant.tick_atTick (by omega)] at htimer
      rw [Nat.min_eq_left (by omega)]
      rfl

end Wake

namespace Progress

variable {tick : Nat} {m m' : Moment} {p q : Progress α}

/-- Alone, the run comes to stand as the second one does, at the second moment. -/
inductive Alone : Progress α → Moment → Progress α → Moment → Prop
  | here (p : Progress α) (m : Moment) : Alone p m p m
  | woken {w : World} {u : Wake} {resume : Moment → World → Progress α} {m m' : Moment}
      {now : Instant} {q : Progress α} (wakes : u.instant? m.now w = some now)
      (rest : Alone (resume { m with now } w) { m with now } q m') :
      Alone (.waiting w u resume) m q m'

/-- A run that goes on alone for a while leaves a world above the one it was started in. -/
theorem Moves.rel_of_alone {R : World → World → Prop} [IsTrans World R] (hp : p.Moves R w)
    (h : p.Alone m q m') : R w q.world := by
  induction h generalizing w with
  | here p m =>
    cases p with
    | finished a v => exact hp
    | waiting v u resume => exact hp.1
  | woken wakes rest ih =>
    obtain ⟨hv, hresume⟩ := hp
    exact trans_of R hv (ih (hresume _ _))

/-- What is made of a value is made of it before or after the run is bounded by a tick. -/
theorem before_map {β : Type} (f : α → β) (p : Progress α) (tick : Nat) (m : Moment) :
    (p.map f).before tick m = (p.before tick m).map (Option.map f) := by
  induction p generalizing m with
  | finished a w => rfl
  | waiting w u resume ih =>
    by_cases hfired : tick ≤ m.now.tick
    · rw [before_of_le hfired]
      exact before_of_le hfired
    · rw [before_of_not_le hfired, map, before_of_not_le hfired, map]
      congr
      funext m' w'
      by_cases hready : u.ready m'.now w'
      · rw [if_pos hready, if_pos hready]
        exact ih m' w' m'
      · rw [if_neg hready, if_neg hready]
        rfl

/-- A bounded run that goes on alone comes to the value that the run comes to, or is abandoned where
the run waits. -/
theorem settle_before {result : Option α} {now : Instant}
    (h : (p.before tick m).settle m = some (result, w, now)) :
    (∃ a, result = some a ∧ p.settle m = some (a, w, now)) ∨
      result = none ∧ tick ≤ now.tick ∧ ∃ u resume m', p.Alone m (.waiting w u resume) m' := by
  induction p generalizing m with
  | finished a v =>
    cases h
    exact .inl ⟨a, rfl, rfl⟩
  | waiting v u resume ih =>
    by_cases hfired : tick ≤ m.now.tick
    · rw [before_of_le hfired] at h
      cases h
      exact .inr ⟨rfl, hfired, u, resume, m, .here _ m⟩
    · rw [before_of_not_le hfired, settle] at h
      cases hwoken : (u.or (.atTick tick)).instant? m.now v with
      | none =>
        rw [hwoken] at h
        cases h
      | some later =>
        rw [hwoken] at h
        dsimp only at h
        by_cases hready : u.ready later v
        · have hown : u.instant? m.now v = some later := Wake.instant?_of_or_atTick hwoken hready
          rw [if_pos hready] at h
          rcases ih _ _ h with ⟨a, rfl, hrest⟩ | ⟨rfl, htick, u', resume', m', hrest⟩
          · refine .inl ⟨a, rfl, ?_⟩
            rw [settle, hown]
            exact hrest
          · exact .inr ⟨rfl, htick, u', resume', m', .woken hown hrest⟩
        · rw [if_neg hready] at h
          cases h
          have hor := Wake.ready_of_instant? hwoken
          rw [Wake.ready_or_atTick] at hor
          refine .inr ⟨rfl, ?_, u, resume, m, .here _ m⟩
          simpa [hready] using hor

end Progress

namespace Run

variable {β : Type} (f : α → β) (r : Run α) (m : Moment) (w : World)

theorem settle_map :
    (f <$> r).settle m w = (r.settle m w).map fun (a, w', now) ↦ (f a, w', now) := by
  unfold settle
  rw [map_apply, Progress.settle_map]

theorem settle_before_map (due : Instant) :
    ((f <$> r).before due).settle m w =
      ((r.before due).settle m w).map fun (a, w', now) ↦ (a.map f, w', now) := by
  unfold settle before
  rw [map_apply, Progress.before_map, Progress.settle_map]

end Run

end ControlLoop
