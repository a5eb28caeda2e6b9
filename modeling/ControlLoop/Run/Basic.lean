import ControlLoop.World

/-!
# Runs

A run is a computation over the world that may wait. Between two waits it is an act: nothing else
happens and no time passes. A run that waits names what wakes it, a timer or a cancelled token, and
goes on from the moment and the world in which it is resumed. It is resumed only once it has been
woken. Every run is finite, whatever it is resumed with.
-/

namespace ControlLoop

/-- What a waiting run waits for: the first of its timer and its tokens. -/
structure Wake where
  timer : Option Nat := none
  tokens : List CancelToken := []

namespace Wake

def timerFired (u : Wake) (now : Instant) : Bool := u.timer.any fun tick ↦ tick ≤ now.tick

def ready (u : Wake) (now : Instant) (w : World) : Bool :=
  u.timerFired now || u.tokens.any w.handles.isCancelled

/-- Waits for whatever comes first of two wakes. -/
def or (u v : Wake) : Wake where
  timer :=
    match u.timer, v.timer with
    | some s, some t => some (min s t)
    | some s, none => some s
    | none, t => t
  tokens := u.tokens ++ v.tokens

def atTick (tick : Nat) : Wake := { timer := some tick }

/-- The instant at which a run that waits now is woken when nothing else happens: now if it is
ready, else when its timer fires, and never without a timer. -/
def instant? (u : Wake) (now : Instant) (w : World) : Option Instant :=
  if u.ready now w then some now else u.timer.map now.atTick

theorem timerFired_or (u v : Wake) (now : Instant) :
    (u.or v).timerFired now = (u.timerFired now || v.timerFired now) := by
  obtain ⟨ut, utok⟩ := u
  obtain ⟨vt, vtok⟩ := v
  cases ut with
  | none => cases vt <;> simp [or, timerFired]
  | some s =>
    cases vt with
    | none => simp [or, timerFired]
    | some t =>
      rw [Bool.eq_iff_iff]
      simp only [or, timerFired, Option.any_some, Bool.or_eq_true, decide_eq_true_eq]
      omega

theorem ready_or (u v : Wake) (now : Instant) (w : World) :
    (u.or v).ready now w = (u.ready now w || v.ready now w) := by
  simp only [ready, timerFired_or]
  simp only [or, List.any_append]
  cases u.timerFired now <;> cases v.timerFired now <;> simp

theorem ready_of_instant? {u : Wake} {now later : Instant} {w : World}
    (h : u.instant? now w = some later) : u.ready later w = true := by
  unfold instant? at h
  split at h
  · next hr => cases h; exact hr
  · next hr =>
    obtain ⟨tick, ht, rfl⟩ := Option.map_eq_some_iff.1 h
    simp only [ready, timerFired, ht, Option.any_some, Bool.or_eq_true, decide_eq_true_eq,
      not_or] at hr ⊢
    exact .inl (Nat.le_of_eq (Instant.tick_atTick (by omega)).symm)

end Wake

/-- How far a run has come: to its value, or to a wait. -/
inductive Progress (α : Type) where
  | finished (value : α) (world : World)
  | waiting (world : World) (wake : Wake) (resume : Moment → World → Progress α)

namespace Progress

variable {α β : Type}

/-- Goes on with `f` once the value is there. -/
def andThen (p : Progress α) (f : α → Moment → World → Progress β) (m : Moment) : Progress β :=
  match p with
  | .finished a w => f a m w
  | .waiting w u k => .waiting w u fun m' w' ↦ (k m' w').andThen f m'

def map (f : α → β) : Progress α → Progress β
  | .finished a w => .finished (f a) w
  | .waiting w u k => .waiting w u fun m w' ↦ (k m w').map f

def world : Progress α → World
  | .finished _ w => w
  | .waiting w _ _ => w

end Progress

def Run (α : Type) := Moment → World → Progress α

namespace Run

variable {α β : Type}

def ofAct (a : Act α) : Run α := fun m w ↦
  let (value, w') := a m w
  .finished value w'

instance : Monad Run where
  pure a := fun _ w ↦ .finished a w
  bind p f := fun m w ↦ (p m w).andThen f m

instance : MonadLift Act Run := ⟨ofAct⟩

theorem andThen_finished (p : Progress α) (m : Moment) :
    p.andThen (fun a _ w ↦ .finished a w) m = p := by
  induction p generalizing m with
  | finished a w => rfl
  | waiting w u k ih => simp only [Progress.andThen, ih]

theorem andThen_andThen {γ : Type} (p : Progress α) (f : α → Run β) (g : β → Run γ) (m : Moment) :
    (p.andThen f m).andThen g m = p.andThen (fun a m' w ↦ (f a m' w).andThen g m') m := by
  induction p generalizing m with
  | finished a w => rfl
  | waiting w u k ih => simp only [Progress.andThen, ih]

instance : LawfulMonad Run :=
  LawfulMonad.mk' Run
    (fun p ↦ funext fun m ↦ funext fun w ↦ andThen_finished (p m w) m)
    (fun _ _ ↦ rfl)
    (fun p f g ↦ funext fun m ↦ funext fun w ↦ andThen_andThen (p m w) f g m)

/-- Waits for the timer of a tick, not at all if it has fired. -/
def untilTick (tick : Nat) : Run Unit := fun m w ↦
  if tick ≤ m.now.tick then .finished () w
  else .waiting w (.atTick tick) fun _ w' ↦ .finished () w'

def untilInstant (due : Instant) : Run Unit := untilTick due.timerTick

end Run

end ControlLoop
