import Mathlib.Data.List.Forall2
import ControlLoop.Proofs.Run.Schedule
import ControlLoop.Run.Combine

/-!
# Related runs

Two runs are related if from related worlds, however they are resumed, they go on to wait for the
same and in the end come to related values, and leave related worlds each time. Values need not be
of one type. What is put together of related runs is related, and so are the values to which related
runs come under schedules of related worlds.
-/

namespace ControlLoop

variable {α β γ δ : Type} {R : World → World → Prop} {V : α → β → Prop} {U : γ → δ → Prop}

namespace Act

/-- From related worlds the acts come to related values and leave related worlds. -/
def Related (R : World → World → Prop) (V : α → β → Prop) (act : Act α) (act' : Act β) : Prop :=
  ∀ m w w', R w w' → V (act m w).1 (act' m w').1 ∧ R (act m w).2 (act' m w').2

theorem related_pure {a : α} {b : β} (h : V a b) : Related R V (pure a) (pure b) :=
  fun _ _ _ hw ↦ ⟨h, hw⟩

/-- Acts that are related, continued alike from related values, still are. -/
theorem Related.bind {act : Act α} {act' : Act β} {f : α → Act γ} {f' : β → Act δ}
    (h : Related R V act act') (hf : ∀ a b, V a b → Related R U (f a) (f' b)) :
    Related R U (act >>= f) (act' >>= f') := by
  intro m w w' hw
  obtain ⟨hvalue, hworld⟩ := h m w w' hw
  exact hf _ _ hvalue m _ _ hworld

end Act

/-- The value of a run that is over. -/
def Standing.value? : Standing α → Option α
  | .finished a _ _ _ => some a
  | .waiting _ _ _ => none

/-- The schedules differ by related worlds. -/
def Schedule.Related (R : World → World → Prop) : Schedule → Schedule → Prop :=
  List.Forall₂ fun poll poll' ↦ poll.1 = poll'.1 ∧ R poll.2 poll'.2

namespace Progress

inductive Related (R : World → World → Prop) (V : α → β → Prop) : Progress α → Progress β → Prop
  | finished {a : α} {b : β} {w w' : World} (value : V a b) (world : R w w') :
      Related R V (.finished a w) (.finished b w')
  | waiting {w w' : World} (u : Wake) {resume : Moment → World → Progress α}
      {resume' : Moment → World → Progress β} (world : R w w')
      (resumed : ∀ m v v', R v v' → Related R V (resume m v) (resume' m v')) :
      Related R V (.waiting w u resume) (.waiting w' u resume')

namespace Related

variable {p : Progress α} {p' : Progress β}

/-- Runs that are related, continued alike from related values, still are. -/
theorem andThen {f : α → Moment → World → Progress γ} {f' : β → Moment → World → Progress δ}
    (h : Related R V p p')
    (hf : ∀ a b m w w', V a b → R w w' → Related R U (f a m w) (f' b m w')) (m : Moment) :
    Related R U (p.andThen f m) (p'.andThen f' m) := by
  induction h generalizing m with
  | finished value world => exact hf _ _ m _ _ value world
  | waiting u world _ ih => exact .waiting u world fun m' v v' hv ↦ ih m' v v' hv m'

/-- Runs are abandoned alike, since worlds with the same handles wake them alike. -/
theorem before (hhandles : ∀ w w', R w w' → w.handles = w'.handles) (h : Related R V p p')
    (tick : Nat) (m : Moment) :
    Related R (Option.Rel V) (p.before tick m) (p'.before tick m) := by
  induction h generalizing m with
  | finished value world => exact .finished (.some value) world
  | waiting u world _ ih =>
    unfold Progress.before
    by_cases hfired : tick ≤ m.now.tick
    · rw [if_pos hfired, if_pos hfired]
      exact .finished .none world
    · rw [if_neg hfired, if_neg hfired]
      refine .waiting _ world fun m' v v' hv ↦ ?_
      have hready : u.ready m'.now v = u.ready m'.now v' := by
        unfold Wake.ready
        rw [hhandles v v' hv]
      rw [hready]
      by_cases hwoken : u.ready m'.now v'
      · rw [if_pos hwoken, if_pos hwoken]
        exact ih m' v v' hv m'
      · rw [if_neg hwoken, if_neg hwoken]
        exact .finished .none hv

/-- Under schedules with related worlds, related runs come to related values, or neither to any. -/
theorem rel_value?_play (h : Related R V p p') {s s' : Schedule} (hs : s.Related R s')
    (m : Moment) : Option.Rel V (p.play m s).value? (p'.play m s').value? := by
  induction h generalizing m s s' with
  | finished value _ => exact .some value
  | waiting u _ _ ih =>
    cases hs with
    | nil => exact .none
    | @cons poll poll' rest rest' hpoll hrest =>
      obtain ⟨m', v⟩ := poll
      obtain ⟨m'', v'⟩ := poll'
      obtain ⟨rfl, hv⟩ := hpoll
      exact ih m' v v' hv hrest m'

end Related

end Progress

namespace Run

def Related (R : World → World → Prop) (V : α → β → Prop) (r : Run α) (r' : Run β) : Prop :=
  ∀ m w w', R w w' → Progress.Related R V (r m w) (r' m w')

variable {r : Run α} {r' : Run β}

theorem related_lift {act : Act α} {act' : Act β} (h : act.Related R V act') :
    Related R V (liftM act) (liftM act') := by
  intro m w w' hw
  obtain ⟨hvalue, hworld⟩ := h m w w' hw
  exact .finished hvalue hworld

theorem related_pure {a : α} {b : β} (h : V a b) : Related R V (pure a) (pure b) :=
  fun _ _ _ hw ↦ .finished h hw

theorem Related.bind {f : α → Run γ} {f' : β → Run δ} (h : Related R V r r')
    (hf : ∀ a b, V a b → Related R U (f a) (f' b)) : Related R U (r >>= f) (r' >>= f') :=
  fun m w w' hw ↦
    (h m w w' hw).andThen (fun a b m' v v' hvalue hv ↦ hf a b hvalue m' v v' hv) m

theorem Related.map {f : α → γ} {f' : β → δ} (h : Related R V r r')
    (hf : ∀ a b, V a b → U (f a) (f' b)) : Related R U (f <$> r) (f' <$> r') := by
  rw [map_eq_pure_bind, map_eq_pure_bind]
  exact h.bind fun a b hvalue ↦ related_pure (hf a b hvalue)

/-- Related runs stay so with a deadline, if cancellations can be told from related worlds. -/
theorem Related.before (hhandles : ∀ w w', R w w' → w.handles = w'.handles)
    (h : Related R V r r') (due : Instant) :
    Related R (Option.Rel V) (r.before due) (r'.before due) :=
  fun m w w' hw ↦ (h m w w' hw).before hhandles due.timerTick m

end Run

end ControlLoop
