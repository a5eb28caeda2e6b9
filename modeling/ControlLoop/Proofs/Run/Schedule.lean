import ControlLoop.Run.Basic

/-!
# Runs under a schedule

A schedule lists the moments and worlds with which a waiting run is resumed. Played under a schedule
a run comes to a standing: its value with what is left of the schedule, or the wait at which the
schedule ends. Schedules are arbitrary, so a law of playing holds for a run alone, beside others and
under a deadline, whatever has happened to the world and the clock while it waited.
-/

namespace ControlLoop

abbrev Schedule := List (Moment × World)

/-- Where a run stands: it has its value, with the rest of the schedule, or it waits. -/
inductive Standing (α : Type) where
  | finished (value : α) (moment : Moment) (world : World) (rest : Schedule)
  | waiting (moment : Moment) (world : World) (wake : Wake)

variable {α β : Type}

namespace Standing

/-- Goes on with the value, at its moment and in its world, under the rest of the schedule. -/
def andThen : Standing α → (α → Moment → World → Schedule → Standing β) → Standing β
  | .finished a m w rest, f => f a m w rest
  | .waiting m w u, _ => .waiting m w u

end Standing

namespace Progress

def play : Progress α → Moment → Schedule → Standing α
  | .finished a w, m, rest => .finished a m w rest
  | .waiting w u _, m, [] => .waiting m w u
  | .waiting _ _ resume, _, (m, w) :: rest => (resume m w).play m rest

/-- A run that goes on is played by playing its first part and, from where that ends, the second. -/
theorem play_andThen (p : Progress α) (f : α → Moment → World → Progress β) (m : Moment)
    (schedule : Schedule) :
    (p.andThen f m).play m schedule =
      (p.play m schedule).andThen fun a m' w rest ↦ (f a m' w).play m' rest := by
  induction p generalizing m schedule with
  | finished a w => rfl
  | waiting w u resume ih =>
    cases schedule with
    | nil => rfl
    | cons resumption rest =>
      obtain ⟨m', w'⟩ := resumption
      exact ih m' w' m' rest

end Progress

namespace Run

/-- Where the run stands when it is started at a moment in a world and resumed as scheduled. -/
def play (r : Run α) (m : Moment) (w : World) (schedule : Schedule) : Standing α :=
  (r m w).play m schedule

theorem play_bind (r : Run α) (f : α → Run β) (m : Moment) (w : World) (schedule : Schedule) :
    (r >>= f).play m w schedule =
      (r.play m w schedule).andThen fun a m' w' rest ↦ (f a).play m' w' rest :=
  Progress.play_andThen (r m w) f m schedule

theorem play_lift_bind (a : Act α) (f : α → Run β) (m : Moment) (w : World) (schedule : Schedule) :
    ((liftM a : Run α) >>= f).play m w schedule = (f (a m w).1).play m (a m w).2 schedule := rfl

end Run

end ControlLoop
