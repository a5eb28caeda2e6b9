import ControlLoop.Proofs.Reconciler.Bound
import ControlLoop.Proofs.Reconciler.Passes

/-!
# The time limit of a pass

The limit of a configuration becomes the deadline of the pass's context, and only the action is
bounded by it. Once the timer of the limit has fired, the action is over in the poll in which it
starts, but it does not start before the factory has built its state, and nothing bounds the
factory. So a pass keeps its limit exactly if its factory does.
-/

namespace ControlLoop

theorem Instant.timerTick_mono {a b : Instant} (h : a ≤ b) : a.timerTick ≤ b.timerTick :=
  Nat.div_le_div_right (Nat.add_le_add_right h (nanosPerTick - 1))

/-- A deadline only ever brings the deadline of a context forward. -/
theorem Context.exists_deadline_withDeadline (ctx : Context) (due : Instant) :
    ∃ d, (ctx.withDeadline due).deadline = some d ∧ d ≤ due := by
  unfold withDeadline
  cases ctx.deadline with
  | none => exact ⟨due, rfl, Nat.le_refl _⟩
  | some earlier =>
    by_cases h : earlier < due
    · exact ⟨earlier, congrArg some (if_pos h), Nat.le_of_lt h⟩
    · exact ⟨due, congrArg some (if_neg h), Nat.le_refl _⟩

namespace Reconciler

variable (r : Reconciler) (parent ctx : Context) (o : Object)

/-- The deadline of a pass with a limit is not after its start and the limit. -/
theorem exists_deadline_passContext {limit : Duration} {now due : Instant}
    (hlimit : r.config.passLimit = some limit) (hdue : now.after? limit = some due) :
    ∃ d, (r.passContext parent now).deadline = some d ∧ d ≤ due := by
  have hctx : r.passContext parent now =
      ((parent.withSpan (some .pass)).withField "pass_id" .passId).withDeadline due := by
    simp only [passContext, hlimit, Context.withTimeout, hdue]
  rw [hctx]
  exact Context.exists_deadline_withDeadline _ due

/-- The signal of a pass that runs its action, once the state is built, in the given way. -/
def signalBy (act : State → Run Signal) : Run Signal := do
  match ← r.factory ctx o with
  | .ok state => act state
  | .error e =>
    Act.log (.stateFailed e)
    return .propagate e

theorem passSignal_eq_signalBy : r.passSignal ctx o = r.signalBy ctx o (r.runBounded ctx) := rfl

/-- The signal of a pass that abandons nothing. -/
def unboundedSignal : Run Signal := r.signalBy ctx o (r.unboundedRun ctx)

/-- The standing of a pass whose state has been built, or has not. -/
def built (act : State → Run Signal) :
    Except Error State → Moment → World → Schedule → Standing Signal
  | .ok state, m, w, rest => (act state).polled m w rest
  | .error e, m, w, rest => .finished (.propagate e) m (w.logged (.stateFailed e)) rest

variable (m : Moment) (w : World) (s : Schedule)

theorem polled_signalBy (act : State → Run Signal) :
    (r.signalBy ctx o act).polled m w s =
      ((r.factory ctx o).polled m w s).andThen (built act) := by
  unfold signalBy
  rw [Run.polled_bind]
  congr
  funext result m' w' rest
  cases result with
  | ok state => rfl
  | error e => exact Progress.polled_finished _ _ m' rest

variable {r ctx o m w s}

/-- Once the timer of the deadline has fired the action of a pass is over. -/
theorem isOver_polled_runBounded {d : Instant} (hdeadline : ctx.deadline = some d)
    (hfired : d.timerTick ≤ (s.last m).now.tick) (state : State) :
    ((r.runBounded ctx state).polled m w s).isOver := by
  rw [polled_runBounded_of_deadline r state m w s hdeadline, Standing.isOver_map]
  exact Run.isOver_polled_before _ w hfired

/-- An action that would wait beyond the timer of its deadline ends with that deadline's error. -/
theorem polled_runBounded_of_waiting {d : Instant} {m' : Moment} {w' : World} {u : Wake}
    {state : State} (hdeadline : ctx.deadline = some d)
    (hfired : d.timerTick ≤ (s.last m).now.tick)
    (hwaits : (r.unboundedRun ctx state).polled m w s = .waiting m' w' u) :
    ∃ m₁ w₁ rest, (r.runBounded ctx state).polled m w s =
      .finished (.propagate .deadlineExceeded) m₁ w₁ rest := by
  obtain ⟨m₁, w₁, rest, hbounded⟩ := Run.polled_before_of_waiting hfired hwaits
  refine ⟨m₁, w₁, rest, ?_⟩
  rw [polled_runBounded_of_deadline r state m w s hdeadline, hbounded]
  rfl

/-- Once the timer of the deadline has fired a pass has its signal as soon as its state is built. -/
theorem isOver_polled_passSignal_iff {d : Instant} (hdeadline : ctx.deadline = some d)
    (hfired : d.timerTick ≤ (s.last m).now.tick) :
    ((r.passSignal ctx o).polled m w s).isOver ↔ ((r.factory ctx o).polled m w s).isOver := by
  rw [passSignal_eq_signalBy, polled_signalBy]
  cases hfactory : (r.factory ctx o).polled m w s with
  | waiting m' w' u => exact Iff.rfl
  | finished result m' w' rest =>
    have hlast : rest.last m' = s.last m := Progress.last_of_polled_eq_finished hfactory
    refine ⟨fun _ ↦ rfl, fun _ ↦ ?_⟩
    cases result with
    | error e => rfl
    | ok state =>
      rw [← hlast] at hfired
      exact isOver_polled_runBounded hdeadline hfired state

/-- A pass whose state is built, and which would wait beyond the timer of its deadline, ends with
that deadline's error. -/
theorem polled_passSignal_of_waiting {d : Instant} {m' : Moment} {w' : World} {u : Wake}
    (hdeadline : ctx.deadline = some d) (hfired : d.timerTick ≤ (s.last m).now.tick)
    (hbuilt : ((r.factory ctx o).polled m w s).isOver)
    (hwaits : (r.unboundedSignal ctx o).polled m w s = .waiting m' w' u) :
    ∃ m₁ w₁ rest, (r.passSignal ctx o).polled m w s =
      .finished (.propagate .deadlineExceeded) m₁ w₁ rest := by
  rw [unboundedSignal, polled_signalBy] at hwaits
  rw [passSignal_eq_signalBy, polled_signalBy]
  cases hfactory : (r.factory ctx o).polled m w s with
  | waiting m₁ w₁ u₁ =>
    rw [hfactory] at hbuilt
    exact nomatch hbuilt
  | finished result m₁ w₁ rest =>
    have hlast : rest.last m₁ = s.last m := Progress.last_of_polled_eq_finished hfactory
    rw [hfactory] at hwaits
    cases result with
    | error e => exact nomatch hwaits
    | ok state =>
      rw [← hlast] at hfired
      exact polled_runBounded_of_waiting hdeadline hfired hwaits

theorem isOver_polled_reconcileWith :
    ((r.reconcileWith parent o).polled m w s).isOver =
      ((r.passSignal (r.passContext parent m.now) o).polled m (r.begun parent o w) s).isOver := by
  rw [polled_reconcileWith, polled_unrecorded]
  cases (r.passSignal (r.passContext parent m.now) o).polled m (r.begun parent o w) s <;> rfl

variable (r o m w s)

/-- A pass keeps to the limit: by the end of the polls it is over, and if its state and its action
would by themselves not be done by then, it has failed for the deadline and its object's failures
have grown by one. -/
structure KeepsLimit : Prop where
  isOver : ((r.reconcileWith parent o).polled m w s).isOver
  abandoned :
    ((r.unboundedSignal (r.passContext parent m.now) o).polled m (r.begun parent o w) s).isOver =
        false →
      ∃ m' before after rest,
        (r.unrecorded parent o).polled m w s =
          .finished (.propagate .deadlineExceeded) m' before rest ∧
        (r.reconcileWith parent o).polled m w s =
          .finished (.failed .deadlineExceeded
            (r.config.backoff.delayFor (after.failures.count o.key))) m' after rest ∧
        (after.failures.count o.key).toNat =
          min ((before.failures.count o.key).toNat + 1) (UInt32.size - 1)

/-- When the last poll finds the timer of the limit fired, also if it is the first to do so, the
pass keeps to the limit exactly if its state is built by then. -/
theorem keepsLimit_iff {limit : Duration} {due : Instant}
    (hlimit : r.config.passLimit = some limit) (hdue : m.now.after? limit = some due)
    (hfired : due.timerTick ≤ (s.last m).now.tick) :
    r.KeepsLimit parent o m w s ↔
      ((r.factory (r.passContext parent m.now) o).polled m (r.begun parent o w) s).isOver := by
  obtain ⟨d, hdeadline, hd⟩ := exists_deadline_passContext r parent hlimit hdue
  have hfiredToo : d.timerTick ≤ (s.last m).now.tick :=
    Nat.le_trans (Instant.timerTick_mono hd) hfired
  constructor
  · intro h
    have hover := h.isOver
    rw [isOver_polled_reconcileWith] at hover
    exact (isOver_polled_passSignal_iff hdeadline hfiredToo).1 hover
  · intro hbuilt
    refine ⟨?_, fun hwaits ↦ ?_⟩
    · rw [isOver_polled_reconcileWith]
      exact (isOver_polled_passSignal_iff hdeadline hfiredToo).2 hbuilt
    · cases hunbounded : (r.unboundedSignal (r.passContext parent m.now) o).polled m
          (r.begun parent o w) s with
      | finished signal m' w' rest =>
        rw [hunbounded] at hwaits
        exact nomatch hwaits
      | waiting m' w' u =>
        obtain ⟨m₁, before, rest, hsignal⟩ :=
          polled_passSignal_of_waiting hdeadline hfiredToo hbuilt hunbounded
        have hpass : (r.unrecorded parent o).polled m w s =
            .finished (.propagate .deadlineExceeded) m₁ before rest :=
          (r.polled_unrecorded parent o m w s).trans hsignal
        obtain ⟨after, hfailed, hcount⟩ := r.polled_reconcileWith_of_propagate parent o hpass
        exact ⟨m₁, before, after, rest, hpass, hfailed, hcount⟩

/-- With a limit of 100 ms and a state that is there at once. -/
theorem keepsLimit_naps :
    let r := napper { Config.default with passTimeout := some 100 }
    let o : Object := ⟨"Lease", { name := "a" }, ∅, ""⟩
    let polls : Schedule := [(momentAt 100, {})]
    r.config.passLimit = some (.ofMillis 100) ∧
      (momentAt 0).now.after? (.ofMillis 100) = some ⟨100000000⟩ ∧
      Instant.timerTick ⟨100000000⟩ ≤ (polls.last (momentAt 0)).now.tick ∧
      r.KeepsLimit (.background none) o (momentAt 0) {} polls := by
  intro r o polls
  have hlimit : r.config.passLimit = some (.ofMillis 100) := rfl
  have hdue : (momentAt 0).now.after? (.ofMillis 100) = some ⟨100000000⟩ := by decide
  have hfired : Instant.timerTick ⟨100000000⟩ ≤ (polls.last (momentAt 0)).now.tick := by decide
  have hbuilt : ((r.factory (r.passContext (.background none) (momentAt 0).now) o).polled
      (momentAt 0) (r.begun (.background none) o {}) polls).isOver := rfl
  exact ⟨hlimit, hdue, hfired,
    (keepsLimit_iff r (.background none) o (momentAt 0) {} polls hlimit hdue hfired).2 hbuilt⟩

/-- Builds the state of a pass for 5 s. -/
def slowFactory : StateFactory := fun _ o ↦ do
  Run.sleep (.ofMillis 5000)
  return .ok { object := o }

/-- With a limit of 100 ms the pass of a slow factory converges after 5 s. -/
theorem slowFactory_outlasts_limit :
    let r : Reconciler :=
      ⟨.proceed, slowFactory, { Config.default with passTimeout := some 100 }⟩
    let o : Object := ⟨"Lease", { name := "a" }, ∅, ""⟩
    r.config.passLimit = some (.ofMillis 100) ∧
      ((r.reconcile o).settle (momentAt 0) {}).map (fun (outcome, _, now) ↦ (outcome, now)) =
        some (.done, ⟨5000000000⟩) := by
  decide +kernel

/-- A wait moves the clock on by whole ticks. With a limit of 1 ms a pass that starts half a tick
late is over half a tick after its timer's. -/
example :
    let r := napper { Config.default with passTimeout := some 1 }
    let o : Object := ⟨"Lease", { name := "a" }, ∅, ""⟩
    ((r.reconcile o).settle ⟨⟨500000⟩, .read 1⟩ {}).map (fun (_, _, now) ↦ now) =
      some ⟨2500000⟩ := by
  decide +kernel

end Reconciler

end ControlLoop
