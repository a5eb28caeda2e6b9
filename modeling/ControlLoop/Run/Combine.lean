import ControlLoop.Run.Basic

/-!
# Bounding and joining runs

A bounded run is abandoned when the timer of its bound fires while it waits; a run that can go on at
that very moment still does. Joined runs take turns: each goes on until it waits, in their order,
and again whenever one of them is woken.
-/

namespace ControlLoop

namespace Progress

variable {α β γ : Type}

/-- The run up to the tick: its value, or nothing if the tick finds it waiting. -/
def before (tick : Nat) (p : Progress α) (m : Moment) : Progress (Option α) :=
  match p with
  | .finished a w => .finished (some a) w
  | .waiting w u k =>
    if tick ≤ m.now.tick then .finished none w
    else .waiting w (u.or (.atTick tick)) fun m' w' ↦
      if u.ready m'.now w' then (k m' w').before tick m' else .finished none w'

/-- A waiting run beside another one. `resumeLeft` goes on with the waiting run and, from the world
it leaves, with the other one. -/
def beside (u : Wake) (resumeLeft : Moment → World → (World → Progress β) → Progress γ) :
    Progress β → Progress γ
  | .finished b w => .waiting w u fun m w' ↦ resumeLeft m w' fun w'' ↦ .finished b w''
  | .waiting w v k =>
    .waiting w (u.or v) fun m w' ↦
      if u.ready m.now w' then
        resumeLeft m w' fun w'' ↦ if v.ready m.now w'' then k m w'' else .waiting w'' v k
      else beside u resumeLeft (k m w')

/-- A run beside one that goes on from the world it leaves. -/
def both (p : Progress α) (right : World → Progress β) : Progress (α × β) :=
  match p with
  | .finished a w => (right w).map fun b ↦ (a, b)
  | .waiting w u k => beside u (fun m w' next ↦ (k m w').both next) (right w)

/-- The value, the world and the instant at the end of a run that goes on alone; nothing if it waits
for what never comes. -/
def settle (p : Progress α) (m : Moment) : Option (α × World × Instant) :=
  match p with
  | .finished a w => some (a, w, m.now)
  | .waiting w u k =>
    match u.instant? m.now w with
    | none => none
    | some now => (k { m with now } w).settle { m with now }

end Progress

namespace Run

variable {α β : Type}

/-- The run up to the timer of an instant. -/
def before (due : Instant) (r : Run α) : Run (Option α) := fun m w ↦
  (r m w).before due.timerTick m

def both (left : Run α) (right : Run β) : Run (α × β) := fun m w ↦
  (left m w).both fun w' ↦ right m w'

/-- Runs side by side, with their values in order. -/
def all : List (Run α) → Run (List α)
  | [] => pure []
  | r :: rs => (fun (a, as) ↦ a :: as) <$> both r (all rs)

def settle (r : Run α) (m : Moment) (w : World) : Option (α × World × Instant) :=
  (r m w).settle m

end Run

end ControlLoop
