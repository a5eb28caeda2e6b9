import ControlLoop.Proofs.Run.Schedule
import ControlLoop.Run.Combine

/-!
# Polling runs

A waiting run is polled at the moments and in the worlds of a schedule, and goes on whenever a poll
finds it woken. What else happens between two polls, to the world and to the clock, is left open.

A bounded run is the run itself under the polls up to the first one that finds the timer of the
bound fired. If the run still waits after that poll it is abandoned as it stands there; the polls
after it change nothing.
-/

namespace ControlLoop

variable {α β : Type}

namespace Schedule

/-- The polls that follow a moment up to the first one at which the timer of the tick has fired. -/
def upTo (tick : Nat) : Moment → Schedule → Schedule
  | _, [] => []
  | m, (m', w') :: rest => if tick ≤ m.now.tick then [] else (m', w') :: upTo tick m' rest

/-- The polls after those. -/
def beyond (tick : Nat) : Moment → Schedule → Schedule
  | _, [] => []
  | m, (m', w') :: rest => if tick ≤ m.now.tick then (m', w') :: rest else beyond tick m' rest

/-- The moment of the last poll after a moment, or that moment if there is none. -/
def last : Moment → Schedule → Moment
  | m, [] => m
  | _, (m', _) :: rest => last m' rest

theorem upTo_of_le {tick : Nat} {m : Moment} (h : tick ≤ m.now.tick) (s : Schedule) :
    s.upTo tick m = [] := by
  cases s with
  | nil => rfl
  | cons poll rest => exact if_pos h

theorem beyond_of_le {tick : Nat} {m : Moment} (h : tick ≤ m.now.tick) (s : Schedule) :
    s.beyond tick m = s := by
  cases s with
  | nil => rfl
  | cons poll rest => exact if_pos h

theorem upTo_cons {tick : Nat} {m m' : Moment} {w' : World} {rest : Schedule}
    (h : ¬ tick ≤ m.now.tick) : upTo tick m ((m', w') :: rest) = (m', w') :: rest.upTo tick m' :=
  if_neg h

theorem beyond_cons {tick : Nat} {m m' : Moment} {w' : World} {rest : Schedule}
    (h : ¬ tick ≤ m.now.tick) : beyond tick m ((m', w') :: rest) = rest.beyond tick m' :=
  if_neg h

/-- A schedule is its polls up to a tick and then those beyond it. -/
theorem upTo_append_beyond (tick : Nat) (m : Moment) (s : Schedule) :
    s.upTo tick m ++ s.beyond tick m = s := by
  induction s generalizing m with
  | nil => rfl
  | cons poll rest ih =>
    by_cases h : tick ≤ m.now.tick
    · rw [upTo_of_le h, beyond_of_le h, List.nil_append]
    · obtain ⟨m', w'⟩ := poll
      rw [upTo_cons h, beyond_cons h, List.cons_append, ih]

/-- A timer that has fired at the last poll has fired at the last one up to the first that finds it
fired. -/
theorem tick_le_last_upTo {tick : Nat} {m : Moment} {s : Schedule}
    (h : tick ≤ (s.last m).now.tick) : tick ≤ ((s.upTo tick m).last m).now.tick := by
  induction s generalizing m with
  | nil => exact h
  | cons poll rest ih =>
    obtain ⟨m', w'⟩ := poll
    by_cases hfired : tick ≤ m.now.tick
    · rw [upTo_of_le hfired]
      exact hfired
    · rw [upTo_cons hfired]
      exact ih h

end Schedule

namespace Progress

/-- Where the run stands after the polls of a schedule. -/
def polled : Progress α → Moment → Schedule → Standing α
  | .finished a w, m, s => .finished a m w s
  | .waiting w u _, m, [] => .waiting m w u
  | .waiting _ u resume, _, (m, w) :: rest =>
    if u.ready m.now w then (resume m w).polled m rest
    else (Progress.waiting w u resume).polled m rest

variable {w w' : World} {u : Wake} {resume : Moment → World → Progress α} {m m' : Moment}
  {s rest : Schedule}

theorem polled_finished (a : α) (w : World) (m : Moment) (s : Schedule) :
    (finished a w).polled m s = .finished a m w s := by
  cases s <;> rfl

theorem polled_cons_of_ready (h : u.ready m'.now w') :
    (waiting w u resume).polled m ((m', w') :: rest) = (resume m' w').polled m' rest :=
  if_pos h

/-- A poll that does not find the run woken makes it wait in the world of that poll. -/
theorem polled_cons_of_not_ready (h : ¬ u.ready m'.now w') :
    (waiting w u resume).polled m ((m', w') :: rest) = (waiting w' u resume).polled m' rest :=
  if_neg h

/-- What goes on from a run is polled under what the run leaves over of the schedule. -/
theorem polled_andThen (p : Progress α) (f : α → Moment → World → Progress β) (m : Moment)
    (s : Schedule) :
    (p.andThen f m).polled m s =
      (p.polled m s).andThen fun a m' w rest ↦ (f a m' w).polled m' rest := by
  induction s generalizing p m with
  | nil =>
    cases p with
    | finished a w => rfl
    | waiting w u resume => rfl
  | cons poll rest ih =>
    obtain ⟨m', w'⟩ := poll
    cases p with
    | finished a w =>
      rw [polled_finished]
      rfl
    | waiting w u resume =>
      by_cases h : u.ready m'.now w'
      · rw [polled_cons_of_ready h]
        exact (polled_cons_of_ready h).trans (ih (resume m' w') m')
      · rw [polled_cons_of_not_ready h]
        exact (polled_cons_of_not_ready h).trans (ih (waiting w' u resume) m')

/-- A run that still waits was last polled at the end of the schedule. -/
theorem moment_of_polled_eq_waiting {p : Progress α} (h : p.polled m s = .waiting m' w u) :
    m' = s.last m := by
  induction s generalizing p m with
  | nil =>
    cases p with
    | finished a w => exact nomatch h
    | waiting w u resume =>
      cases h
      rfl
  | cons poll rest ih =>
    obtain ⟨m₁, w₁⟩ := poll
    cases p with
    | finished a w => exact nomatch h
    | waiting w u resume =>
      by_cases hready : u.ready m₁.now w₁
      · exact ih (polled_cons_of_ready (m := m) hready ▸ h)
      · exact ih (polled_cons_of_not_ready (m := m) hready ▸ h)

/-- The polls that a run leaves over end where all of them end. -/
theorem last_of_polled_eq_finished {p : Progress α} {a : α}
    (h : p.polled m s = .finished a m' w rest) : rest.last m' = s.last m := by
  induction s generalizing p m with
  | nil =>
    cases p with
    | finished a w =>
      cases h
      rfl
    | waiting w u resume => exact nomatch h
  | cons poll polls ih =>
    obtain ⟨m₁, w₁⟩ := poll
    cases p with
    | finished a w =>
      cases h
      rfl
    | waiting w u resume =>
      by_cases hready : u.ready m₁.now w₁
      · exact ih (polled_cons_of_ready (m := m) hready ▸ h)
      · exact ih (polled_cons_of_not_ready (m := m) hready ▸ h)

/-- A run that has come to its end is left alone by further polls. -/
theorem polled_append_of_finished {p : Progress α} {a : α} (more : Schedule)
    (h : p.polled m s = .finished a m' w rest) :
    p.polled m (s ++ more) = .finished a m' w (rest ++ more) := by
  induction s generalizing p m with
  | nil =>
    cases p with
    | finished b w₁ =>
      cases h
      exact polled_finished a w m' more
    | waiting w u resume => exact nomatch h
  | cons poll polls ih =>
    obtain ⟨m₁, w₁⟩ := poll
    cases p with
    | finished b w₁ =>
      cases h
      rfl
    | waiting w u resume =>
      rw [List.cons_append]
      by_cases hready : u.ready m₁.now w₁
      · rw [polled_cons_of_ready hready] at h ⊢
        exact ih h
      · rw [polled_cons_of_not_ready hready] at h ⊢
        exact ih h

end Progress

namespace Standing

def isOver : Standing α → Bool
  | .finished _ _ _ _ => true
  | .waiting _ _ _ => false

def map (f : α → β) : Standing α → Standing β
  | .finished a m w rest => .finished (f a) m w rest
  | .waiting m w u => .waiting m w u

theorem isOver_map (f : α → β) (st : Standing α) : (st.map f).isOver = st.isOver := by
  cases st <;> rfl

/-- The standing of a bounded run, given where the run stands after the polls up to the first one
that finds the timer of the tick fired, and the polls beyond. -/
def cut (tick : Nat) (beyond : Schedule) : Standing α → Standing (Option α)
  | .finished a m w rest => .finished (some a) m w (rest ++ beyond)
  | .waiting m w u =>
    if tick ≤ m.now.tick then .finished none m w beyond
    else .waiting m w (u.or (.atTick tick))

theorem cut_of_le {tick : Nat} {m : Moment} (h : tick ≤ m.now.tick) (beyond : Schedule) (w : World)
    (u : Wake) : (waiting m w u : Standing α).cut tick beyond = finished none m w beyond :=
  if_pos h

theorem cut_of_not_le {tick : Nat} {m : Moment} (h : ¬ tick ≤ m.now.tick) (beyond : Schedule)
    (w : World) (u : Wake) :
    (waiting m w u : Standing α).cut tick beyond = waiting m w (u.or (.atTick tick)) :=
  if_neg h

end Standing

theorem Wake.ready_or_atTick (u : Wake) (tick : Nat) (now : Instant) (w : World) :
    (u.or (.atTick tick)).ready now w = (u.ready now w || decide (tick ≤ now.tick)) := by
  rw [ready_or]
  simp [ready, timerFired, atTick]

namespace Progress

variable {tick : Nat} {w w' : World} {u : Wake} {resume : Moment → World → Progress α}
  {m m' : Moment}

theorem before_of_le (h : tick ≤ m.now.tick) :
    (waiting w u resume).before tick m = finished none w :=
  if_pos h

/-- Before the tick, a waiting run is woken by the tick too and abandoned if only by that. -/
theorem before_of_not_le (h : ¬ tick ≤ m.now.tick) :
    (waiting w u resume).before tick m =
      waiting w (u.or (.atTick tick)) fun m' w' ↦
        if u.ready m'.now w' then (resume m' w').before tick m' else finished none w' :=
  if_neg h

/-- A poll before which the timer has not fired resumes the bounded run if it is woken, and else
bounds its wait again from the poll on. -/
theorem polled_before_cons (h : ¬ tick ≤ m.now.tick) (rest : Schedule) :
    ((waiting w u resume).before tick m).polled m ((m', w') :: rest) =
      if u.ready m'.now w' then ((resume m' w').before tick m').polled m' rest
      else ((waiting w' u resume).before tick m').polled m' rest := by
  rw [before_of_not_le h]
  by_cases hready : u.ready m'.now w'
  · have hwoken : (u.or (.atTick tick)).ready m'.now w' := by
      rw [Wake.ready_or_atTick, hready, Bool.true_or]
    rw [polled_cons_of_ready hwoken, if_pos hready, if_pos hready]
  · rw [if_neg hready]
    by_cases hfires : tick ≤ m'.now.tick
    · have hwoken : (u.or (.atTick tick)).ready m'.now w' := by
        rw [Wake.ready_or_atTick, decide_eq_true hfires, Bool.or_true]
      rw [polled_cons_of_ready hwoken, if_neg hready, before_of_le hfires]
    · have hasleep : ¬ (u.or (.atTick tick)).ready m'.now w' := by
        simp [Wake.ready_or_atTick, hready, hfires]
      rw [polled_cons_of_not_ready hasleep, before_of_not_le hfires]

/-- A run with a last tick is polled as the run is up to that tick and cut there. -/
theorem polled_before (tick : Nat) (p : Progress α) (m : Moment) (s : Schedule) :
    (p.before tick m).polled m s =
      (p.polled m (s.upTo tick m)).cut tick (s.beyond tick m) := by
  induction s generalizing p m with
  | nil =>
    cases p with
    | finished a w => rfl
    | waiting w u resume =>
      by_cases hfired : tick ≤ m.now.tick
      · rw [before_of_le hfired]
        exact (Standing.cut_of_le hfired [] w u).symm
      · rw [before_of_not_le hfired]
        exact (Standing.cut_of_not_le hfired [] w u).symm
  | cons poll rest ih =>
    cases p with
    | finished a w =>
      rw [before, polled_finished, polled_finished, Standing.cut, Schedule.upTo_append_beyond]
    | waiting w u resume =>
      by_cases hfired : tick ≤ m.now.tick
      · rw [Schedule.upTo_of_le hfired, Schedule.beyond_of_le hfired, before_of_le hfired]
        exact (Standing.cut_of_le hfired (poll :: rest) w u).symm
      · obtain ⟨m', w'⟩ := poll
        rw [Schedule.upTo_cons hfired, Schedule.beyond_cons hfired, polled_before_cons hfired]
        by_cases hready : u.ready m'.now w'
        · rw [if_pos hready, polled_cons_of_ready hready]
          exact ih (resume m' w') m'
        · rw [if_neg hready, polled_cons_of_not_ready hready]
          exact ih (waiting w' u resume) m'

end Progress

namespace Run

/-- Where the run stands when it is started at a moment in a world and then polled. -/
def polled (r : Run α) (m : Moment) (w : World) (s : Schedule) : Standing α :=
  (r m w).polled m s

/-- The second of two runs is polled under what the first leaves over of the schedule. -/
theorem polled_bind (r : Run α) (f : α → Run β) (m : Moment) (w : World) (s : Schedule) :
    (r >>= f).polled m w s =
      (r.polled m w s).andThen fun a m' w' rest ↦ (f a).polled m' w' rest :=
  Progress.polled_andThen (r m w) f m s

theorem polled_pure (a : α) (m : Moment) (w : World) (s : Schedule) :
    (pure a : Run α).polled m w s = .finished a m w s :=
  Progress.polled_finished a w m s

theorem polled_lift (act : Act α) (m : Moment) (w : World) (s : Schedule) :
    (liftM act : Run α).polled m w s = .finished (act m w).1 m (act m w).2 s :=
  Progress.polled_finished _ _ m s

theorem polled_map (f : α → β) (r : Run α) (m : Moment) (w : World) (s : Schedule) :
    (f <$> r).polled m w s = (r.polled m w s).map f := by
  rw [map_eq_pure_bind, polled_bind]
  cases r.polled m w s with
  | finished a m' w' rest => exact polled_pure (f a) m' w' rest
  | waiting m' w' u => rfl

theorem polled_before (due : Instant) (r : Run α) (m : Moment) (w : World) (s : Schedule) :
    (r.before due).polled m w s =
      (r.polled m w (s.upTo due.timerTick m)).cut due.timerTick (s.beyond due.timerTick m) :=
  Progress.polled_before due.timerTick (r m w) m s

/-- A bounded run is over once the timer of its bound has fired. -/
theorem isOver_polled_before {due : Instant} {m : Moment} {s : Schedule} (r : Run α) (w : World)
    (h : due.timerTick ≤ (s.last m).now.tick) : ((r.before due).polled m w s).isOver := by
  rw [polled_before]
  cases hrun : r.polled m w (s.upTo due.timerTick m) with
  | finished a m' w' rest => rfl
  | waiting m' w' u =>
    have hlast : m' = (s.upTo due.timerTick m).last m := Progress.moment_of_polled_eq_waiting hrun
    have hfired : due.timerTick ≤ m'.now.tick := by
      rw [hlast]
      exact Schedule.tick_le_last_upTo h
    rw [Standing.cut_of_le hfired]
    rfl

/-- A run that waits beyond the timer of its bound is abandoned. -/
theorem polled_before_of_waiting {due : Instant} {m m' : Moment} {s : Schedule} {r : Run α}
    {w w' : World} {u : Wake} (h : due.timerTick ≤ (s.last m).now.tick)
    (hrun : r.polled m w s = .waiting m' w' u) :
    ∃ m₁ w₁ rest, (r.before due).polled m w s = .finished none m₁ w₁ rest := by
  have hover := isOver_polled_before r w h
  cases hbounded : (r.before due).polled m w s with
  | waiting m₁ w₁ u₁ =>
    rw [hbounded] at hover
    exact nomatch hover
  | finished a m₁ w₁ rest =>
    cases a with
    | none => exact ⟨m₁, w₁, rest, rfl⟩
    | some a =>
      -- a run that has come to its end early cannot be waiting now
      rw [polled_before] at hbounded
      cases hearly : r.polled m w (s.upTo due.timerTick m) with
      | finished b m₂ w₂ rest₂ =>
        have hall := Progress.polled_append_of_finished (s.beyond due.timerTick m) hearly
        rw [Schedule.upTo_append_beyond] at hall
        exact nomatch hall.symm.trans hrun
      | waiting m₂ w₂ u₂ =>
        rw [hearly, Standing.cut] at hbounded
        split at hbounded
        · exact nomatch hbounded
        · exact nomatch hbounded

end Run

end ControlLoop
