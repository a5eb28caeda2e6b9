import ControlLoop.Proofs.Run.Polling
import ControlLoop.Reconciler
import ControlLoop.Run.Wait

/-!
# Bounded passes

The action of a pass is bounded by the deadline that its context has before it runs; what the action
does to the context moves nothing. Up to the first poll that finds the timer of the deadline fired
the bounded run is the run itself, polled in the same way: it comes to the same reply in the same
world. If it still waits after that poll it is abandoned in the world of that poll, even where
something else would have woken it at the same instant.
-/

namespace ControlLoop.Reconciler

variable (r : Reconciler)

/-- The signal of the action, however long it takes. -/
def unboundedRun (ctx : Context) (state : State) : Run Signal :=
  (·.signal) <$> r.action.run (some .pass) ctx state

variable {ctx : Context} {due : Instant} (state : State) (m : Moment) (w : World) (s : Schedule)

/-- The deadline of the context bounds the action, and ends it with that error. -/
theorem runBounded_of_deadline (h : ctx.deadline = some due) :
    r.runBounded ctx state =
      (·.getD (.propagate .deadlineExceeded)) <$> (r.unboundedRun ctx state).before due := by
  unfold runBounded
  rw [h]
  rfl

theorem polled_runBounded_of_deadline (h : ctx.deadline = some due) :
    (r.runBounded ctx state).polled m w s =
      (((r.unboundedRun ctx state).before due).polled m w s).map
        (·.getD (.propagate .deadlineExceeded)) := by
  rw [runBounded_of_deadline r state h, Run.polled_map]

theorem polled_before_unboundedRun :
    ((r.unboundedRun ctx state).before due).polled m w s =
      (((r.action.run (some .pass) ctx state).polled m w (s.upTo due.timerTick m)).map
        (·.signal)).cut due.timerTick (s.beyond due.timerTick m) := by
  rw [Run.polled_before, unboundedRun, Run.polled_map]

/-- The bounded run of an action is the run itself up to the first poll at which the timer of the
deadline has fired, and abandoned there if it still waits. -/
theorem polled_runBounded (hdeadline : ctx.deadline = some due) :
    let tick := due.timerTick
    let beyond := s.beyond tick m
    let run := r.action.run (some .pass) ctx state
    match run.polled m w (s.upTo tick m) with
    | .finished reply m' w' rest =>
      (run.before due).polled m w s = .finished (some reply) m' w' (rest ++ beyond) ∧
        (r.runBounded ctx state).polled m w s = .finished reply.signal m' w' (rest ++ beyond)
    | .waiting m' w' u =>
      (r.runBounded ctx state).polled m w s =
        if tick ≤ m'.now.tick then .finished (.propagate .deadlineExceeded) m' w' beyond
        else .waiting m' w' (u.or (.atTick tick)) := by
  intro tick beyond run
  rw [polled_runBounded_of_deadline r state m w s hdeadline, polled_before_unboundedRun,
    Run.polled_before]
  cases run.polled m w (s.upTo tick m) with
  | finished reply m' w' rest => exact ⟨rfl, rfl⟩
  | waiting m' w' u =>
    change ((Standing.waiting m' w' u).cut tick beyond).map _ = _
    by_cases hfired : tick ≤ m'.now.tick
    · rw [Standing.cut_of_le hfired, if_pos hfired]
      rfl
    · rw [Standing.cut_of_not_le hfired, if_neg hfired]
      rfl

/-- Sleeps for 100 ms and then for another 5 s. -/
def naps : Action where
  name := "naps"
  run _ ctx state := do
    Run.sleep (.ofMillis 100)
    Run.sleep (.ofMillis 5000)
    return ⟨.proceed, ctx, state⟩

/-- Builds its states at once and naps. -/
def napper (config : Config) : Reconciler := ⟨naps, fun _ o ↦ pure (.ok { object := o }), config⟩

def momentAt (millis : Nat) : Moment := ⟨⟨millis * 1000000⟩, .read 1⟩

/-- Polled at 50 ms, 100 ms and 7 s, the action with its deadline at 100 ms is woken by the second
poll and abandoned in it. -/
theorem polled_runBounded_naps :
    let ctx := (Context.background none).withDeadline ⟨100000000⟩
    let state : State := { object := ⟨"Lease", { name := "a" }, ∅, ""⟩ }
    ctx.deadline = some ⟨100000000⟩ ∧
      ((napper .default).runBounded ctx state).polled (momentAt 0) {}
          [(momentAt 50, {}), (momentAt 100, {}), (momentAt 7000, {})] =
        .finished (.propagate .deadlineExceeded) (momentAt 100) {} [(momentAt 7000, {})] := by
  intro ctx state
  have hdeadline : ctx.deadline = some ⟨100000000⟩ := rfl
  have hstart : ¬ Instant.timerTick ⟨100000000⟩ ≤ (momentAt 0).now.tick := by decide
  have hspurious : ¬ Instant.timerTick ⟨100000000⟩ ≤ (momentAt 50).now.tick := by decide
  have hfired : Instant.timerTick ⟨100000000⟩ ≤ (momentAt 100).now.tick := by decide
  have hrun : ((napper .default).action.run (some .pass) ctx state).polled (momentAt 0) {}
      [(momentAt 50, {}), (momentAt 100, {})] = .waiting (momentAt 100) {} (.atTick 5100) := rfl
  have h := polled_runBounded (napper .default) state (momentAt 0) {}
    [(momentAt 50, {}), (momentAt 100, {}), (momentAt 7000, {})] hdeadline
  simp only [Schedule.upTo_cons hstart, Schedule.upTo_cons hspurious, Schedule.upTo_of_le hfired,
    Schedule.beyond_cons hstart, Schedule.beyond_cons hspurious, Schedule.beyond_of_le hfired,
    hrun, if_pos hfired] at h
  exact ⟨hdeadline, h⟩

/-- Waits for 100 ms and then for a new handle to be cancelled. -/
def patience : Action where
  name := "wait"
  run span ctx state := do
    Run.sleep (.ofMillis 100)
    let w ← (get : Act World)
    (set { w with handles := w.handles.issue "h" } : Act Unit)
    let _ ← Run.awaitDone false ((Context.background span).withToken (w.handles.nextToken "h"))
    return ⟨.proceed, ctx, state⟩

/-- Cancels the handle after 100 ms. -/
def rival : Run Unit := do
  Run.sleep (.ofMillis 100)
  (modify fun w ↦ { w with handles := w.handles.cancel "h" } : Act Unit)

/-- Beside its rival the action comes to its end at 100 ms. With its deadline at 100 ms it does not:
it is abandoned at that instant, before the rival has its turn. -/
theorem patience_abandoned :
    let r : Reconciler := ⟨patience, fun _ o ↦ pure (.ok { object := o }), .default⟩
    let ctx := (Context.background none).withDeadline ⟨100000000⟩
    let state : State := { object := ⟨"Lease", { name := "a" }, ∅, ""⟩ }
    let alone := ((·.signal) <$> patience.run (some .pass) ctx state).both rival
    ((alone.settle (momentAt 0) {}).map fun (answers, _, now) ↦ (answers.1, now)) =
        some (.proceed, ⟨100000000⟩) ∧
      (((r.runBounded ctx state).both rival).settle (momentAt 0) {}).map (fun (answers, _, now) ↦
        (answers.1, now)) = some (.propagate .deadlineExceeded, ⟨100000000⟩) := by
  decide +kernel

end ControlLoop.Reconciler
