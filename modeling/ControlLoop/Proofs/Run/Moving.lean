import Mathlib.Order.Defs.Unbundled
import ControlLoop.Run.Combine
import ControlLoop.Run.Wait

/-!
# How runs move the world

Each poll of a run finds a world and leaves another. A run moves along a relation of worlds if all
of its polls do. What else happens between two polls is not the run's doing; alone, where nothing
does, a run that moves along a preorder leaves a world that is above the one it was started in.
-/

namespace ControlLoop

variable {α β : Type} {R : World → World → Prop}

namespace Progress

/-- Where a run stands that goes on alone first in its first part and then in its second. -/
theorem settle_andThen (p : Progress α) (f : α → Moment → World → Progress β) (m : Moment) :
    (p.andThen f m).settle m =
      (p.settle m).bind fun (a, w, now) ↦ (f a { m with now } w).settle { m with now } := by
  induction p generalizing m with
  | finished a w => rfl
  | waiting w u resume ih =>
    simp only [andThen, settle]
    cases u.instant? m.now w with
    | none => rfl
    | some now => exact ih { m with now } w { m with now }

theorem settle_map (f : α → β) (p : Progress α) (m : Moment) :
    (p.map f).settle m = (p.settle m).map fun (a, w, now) ↦ (f a, w, now) := by
  induction p generalizing m with
  | finished a w => rfl
  | waiting w u resume ih =>
    unfold map settle
    cases u.instant? m.now w with
    | none => rfl
    | some now => exact ih { m with now } w { m with now }

/-- The poll that found the world has moved it, and each poll to come will. -/
def Moves (R : World → World → Prop) : Progress α → World → Prop
  | .finished _ w', w => R w w'
  | .waiting w' _ resume, w => R w w' ∧ ∀ m v, (resume m v).Moves R v

section Trans

variable [IsTrans World R] {w w' : World}

theorem Moves.of_rel {p : Progress α} (hp : p.Moves R w') (h : R w w') : p.Moves R w := by
  cases p with
  | finished a v => exact trans_of R h hp
  | waiting v u resume => exact ⟨trans_of R h hp.1, hp.2⟩

/-- A run and what goes on from it move along a relation that each of them moves along. -/
theorem Moves.andThen {p : Progress α} {f : α → Moment → World → Progress β} (m : Moment)
    (hp : p.Moves R w) (hf : ∀ a m v, (f a m v).Moves R v) : (p.andThen f m).Moves R w := by
  induction p generalizing w m with
  | finished a v => exact (hf a m v).of_rel hp
  | waiting v u resume ih =>
    obtain ⟨hv, hresume⟩ := hp
    exact ⟨hv, fun m' v' ↦ ih m' v' m' (hresume m' v')⟩

/-- Alone, a run leaves a world above the one it was started in. -/
theorem Moves.rel_of_settle {p : Progress α} {m : Moment} {a : α} {now : Instant}
    (hp : p.Moves R w) (h : p.settle m = some (a, w', now)) : R w w' := by
  induction p generalizing w m with
  | finished b v =>
    cases h
    exact hp
  | waiting v u resume ih =>
    obtain ⟨hv, hresume⟩ := hp
    unfold settle at h
    cases hwoken : u.instant? m.now v with
    | none =>
      rw [hwoken] at h
      exact nomatch h
    | some later =>
      rw [hwoken] at h
      exact trans_of R hv (ih _ v (hresume _ v) h)

end Trans

/-- A run that is abandoned at a tick moves the world no otherwise than the run does. -/
theorem Moves.before [Std.Refl R] {p : Progress α} {w : World} (tick : Nat) (m : Moment)
    (hp : p.Moves R w) : (p.before tick m).Moves R w := by
  induction p generalizing w m with
  | finished a v => exact hp
  | waiting v u resume ih =>
    obtain ⟨hv, hresume⟩ := hp
    unfold Progress.before
    by_cases hfired : tick ≤ m.now.tick
    · rw [if_pos hfired]
      exact hv
    · rw [if_neg hfired]
      refine ⟨hv, fun m' v' ↦ ?_⟩
      dsimp only
      by_cases hready : u.ready m'.now v'
      · rw [if_pos hready]
        exact ih m' v' m' (hresume m' v')
      · rw [if_neg hready]
        exact refl_of R v'

end Progress

namespace Run

/-- Alone, two runs one after the other stand where the second stands from the first's end. -/
theorem settle_bind (r : Run α) (f : α → Run β) (m : Moment) (w : World) :
    (r >>= f).settle m w =
      (r.settle m w).bind fun (a, w', now) ↦ (f a).settle { m with now } w' :=
  Progress.settle_andThen (r m w) f m

def Moves (R : World → World → Prop) (r : Run α) : Prop := ∀ m w, (r m w).Moves R w

theorem Moves.bind [IsTrans World R] {r : Run α} {f : α → Run β} (hr : r.Moves R)
    (hf : ∀ a, (f a).Moves R) : (r >>= f).Moves R := fun m w ↦
  (hr m w).andThen m fun a m' w' ↦ hf a m' w'

/-- A run that starts with an act moves the world if the act and the rest of it do. -/
theorem moves_lift_bind [IsTrans World R] {act : Act α} {f : α → Run β}
    (h : ∀ m w, R w (act m w).2) (hf : ∀ m w, (f (act m w).1).Moves R) :
    ((liftM act : Run α) >>= f).Moves R := fun m w ↦
  (hf m w m (act m w).2).of_rel (h m w)

theorem Moves.rel_of_settle [IsTrans World R] {r : Run α} {m : Moment} {w w' : World} {a : α}
    {now : Instant} (hr : r.Moves R) (h : r.settle m w = some (a, w', now)) : R w w' :=
  Progress.Moves.rel_of_settle (hr m w) h

section Refl

variable [Std.Refl R]

theorem moves_pure (a : α) : (pure a : Run α).Moves R := fun _ w ↦ refl_of R w

theorem Moves.before {r : Run α} (due : Instant) (hr : r.Moves R) : (r.before due).Moves R :=
  fun m w ↦ (hr m w).before due.timerTick m

theorem moves_untilTick (tick : Nat) : (untilTick tick).Moves R := by
  intro m w
  unfold untilTick
  by_cases h : tick ≤ m.now.tick
  · rw [if_pos h]
    exact refl_of R w
  · rw [if_neg h]
    exact ⟨refl_of R w, fun _ v ↦ refl_of R v⟩

theorem moves_sleep (d : Duration) : (sleep d).Moves R := fun m w ↦ moves_untilTick _ m w

end Refl

theorem Moves.map [IsPreorder World R] {r : Run α} (f : α → β) (hr : r.Moves R) :
    (f <$> r).Moves R := by
  rw [map_eq_pure_bind]
  exact hr.bind fun a ↦ moves_pure (f a)

end Run

end ControlLoop
