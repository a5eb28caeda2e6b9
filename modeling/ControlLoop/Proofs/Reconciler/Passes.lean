import ControlLoop.Proofs.Action.Visit
import ControlLoop.Proofs.Run.Joining
import ControlLoop.Proofs.Run.Moving
import ControlLoop.Reconciler

/-!
# Passes and their recording

A pass is a run to a signal and then the recording of it, under the key that the object had when the
pass began. The recording changes the failure counts and the log and nothing else, and its outcome
follows from the signal and the count after it. Passes side by side are polled each under a schedule
of its own, and their outcomes come in the order of their objects.
-/

namespace ControlLoop

namespace FailureCounts

/-- The next count is one more, up to the largest that there is. -/
theorem toNat_next (f : FailureCounts) (key : ObjectKey) :
    (f.next key).toNat = min ((f.count key).toNat + 1) (UInt32.size - 1) :=
  toNat_saturatingAdd32 (f.count key) 1

/-- The counts after a pass over the object of a key has ended with a signal. -/
def afterPass (f : FailureCounts) (key : ObjectKey) : Signal → FailureCounts
  | .propagate _ => f.recordFailure key
  | _ => f.clear key

theorem count_afterPass_propagate (f : FailureCounts) (key : ObjectKey) (e : Error) :
    (f.afterPass key (.propagate e)).count key = f.next key := by
  rw [afterPass, count_recordFailure, if_pos rfl]

theorem count_clear_self (f : FailureCounts) (key : ObjectKey) : (f.clear key).count key = 0 := by
  rw [count_clear, if_pos rfl]

/-- A pass leaves the counts of other keys. -/
theorem count_afterPass_of_ne {f : FailureCounts} {key other : ObjectKey} (h : key ≠ other)
    (s : Signal) : (f.afterPass key s).count other = f.count other := by
  cases s with
  | propagate e => exact (f.count_recordFailure key other).trans (if_neg h)
  | proceed | forget | requeue => exact (f.count_clear key other).trans (if_neg h)

/-- The count of a key after a pass over its object follows from the count before it. -/
theorem count_afterPass_eq {f g : FailureCounts} {key : ObjectKey} (h : f.count key = g.count key)
    (s : Signal) : (f.afterPass key s).count key = (g.afterPass key s).count key := by
  cases s with
  | propagate e => rw [count_afterPass_propagate, count_afterPass_propagate, next, next, h]
  | proceed | forget | requeue => exact (f.count_clear_self key).trans (g.count_clear_self key).symm

end FailureCounts

namespace Act

variable (config : Config) (key : ObjectKey) (s : Signal) (m : Moment) (w : World)

/-- What a recording does to the failure counts depends on the signal only. -/
theorem failures_record : (record config key s m w).2.failures = w.failures.afterPass key s := by
  cases s <;> rfl

theorem store_record : (record config key s m w).2.store = w.store := by
  cases s <;> rfl

theorem handles_record : (record config key s m w).2.handles = w.handles := by
  cases s <;> rfl

/-- The outcome has the delay for the count after the pass. -/
theorem record_fst :
    (record config key s m w).1 =
      Outcome.ofSignal config ((w.failures.afterPass key s).count key) s := by
  cases s with
  | propagate e =>
    rw [FailureCounts.count_afterPass_propagate]
    rfl
  | proceed | forget | requeue => rfl

end Act

namespace Reconciler

variable (r : Reconciler) (parent : Context) (o : Object)

/-- A pass up to its signal, which is then recorded. -/
def unrecorded : Run Signal := do
  Act.log (.passOpened o.kind o.key parent.span)
  let ctx := r.passContext parent (← (read : Act Moment)).now
  Act.log (.passStarted r.action.name)
  r.passSignal ctx o

/-- A pass is its run to a signal and then its recording under the key it began with. -/
theorem reconcileWith_eq_bind :
    r.reconcileWith parent o =
      r.unrecorded parent o >>= fun s ↦ liftM (Act.record r.config o.key s) := rfl

/-- The world in which the state of a pass is built. -/
def begun (w : World) : World :=
  (w.logged (.passOpened o.kind o.key parent.span)).logged (.passStarted r.action.name)

theorem polled_unrecorded (m : Moment) (w : World) (polls : Schedule) :
    (r.unrecorded parent o).polled m w polls =
      (r.passSignal (r.passContext parent m.now) o).polled m (r.begun parent o w) polls := rfl

/-- A pass that is polled is recorded in the poll that brings its signal. -/
theorem polled_reconcileWith (m : Moment) (w : World) (polls : Schedule) :
    (r.reconcileWith parent o).polled m w polls =
      ((r.unrecorded parent o).polled m w polls).andThen fun s m' w' rest ↦
        .finished (Act.record r.config o.key s m' w').1 m' (Act.record r.config o.key s m' w').2
          rest := by
  rw [reconcileWith_eq_bind, Run.polled_bind]
  congr
  funext s m' w' rest
  exact Run.polled_lift (Act.record r.config o.key s) m' w' rest

theorem polled_reconcileWith_of_finished {m m' : Moment} {w before : World} {polls rest : Schedule}
    {s : Signal} (h : (r.unrecorded parent o).polled m w polls = .finished s m' before rest) :
    (r.reconcileWith parent o).polled m w polls =
      .finished (Outcome.ofSignal r.config ((before.failures.afterPass o.key s).count o.key) s) m'
        (Act.record r.config o.key s m' before).2 rest := by
  rw [polled_reconcileWith, h, ← Act.record_fst r.config o.key s m' before]
  rfl

/-- A pass that propagates an error is one more failure of its object. -/
theorem polled_reconcileWith_of_propagate {m m' : Moment} {w before : World} {polls rest : Schedule}
    {e : Error}
    (h : (r.unrecorded parent o).polled m w polls = .finished (.propagate e) m' before rest) :
    ∃ after, (r.reconcileWith parent o).polled m w polls =
        .finished (.failed e (r.config.backoff.delayFor (after.failures.count o.key))) m' after
          rest ∧
      (after.failures.count o.key).toNat =
        min ((before.failures.count o.key).toNat + 1) (UInt32.size - 1) := by
  have hcount : (Act.record r.config o.key (.propagate e) m' before).2.failures.count o.key =
      before.failures.next o.key := by
    rw [Act.failures_record, FailureCounts.count_afterPass_propagate]
  refine ⟨(Act.record r.config o.key (.propagate e) m' before).2, ?_, ?_⟩
  · rw [polled_reconcileWith_of_finished r parent o h, FailureCounts.count_afterPass_propagate,
      hcount]
    rfl
  · rw [hcount]
    exact FailureCounts.toNat_next before.failures o.key

section Moving

variable {R : World → World → Prop} [IsPreorder World R] {r}
  (hlog : ∀ (w : World) e, R w (w.logged e)) (hfactory : ∀ ctx o, (r.factory ctx o).Moves R)
  (haction : ∀ ctx state, (r.action.run (some .pass) ctx state).Moves R)

include haction in
/-- The bounded action moves the world as the action does. -/
theorem moves_runBounded (ctx : Context) (state : State) : (r.runBounded ctx state).Moves R := by
  have hsignal := (haction ctx state).map (·.signal)
  unfold runBounded
  cases ctx.deadline with
  | none => exact hsignal
  | some due => exact (hsignal.before due).map (·.getD (Signal.propagate .deadlineExceeded))

include hlog hfactory haction

theorem moves_passSignal (ctx : Context) (o : Object) : (r.passSignal ctx o).Moves R := by
  refine (hfactory ctx o).bind fun built ↦ ?_
  cases built with
  | ok state => exact moves_runBounded haction ctx state
  | error e => exact Run.moves_lift_bind (fun _ w ↦ hlog w _) fun _ _ ↦ Run.moves_pure _

/-- Up to its signal a pass moves the world as its factory, its action and its entries do. -/
theorem moves_unrecorded (parent : Context) (o : Object) : (r.unrecorded parent o).Moves R := by
  refine Run.moves_lift_bind (fun _ w ↦ hlog w _) fun _ _ ↦ ?_
  refine Run.moves_lift_bind (fun _ w ↦ refl_of R w) fun m _ ↦ ?_
  refine Run.moves_lift_bind (fun _ w ↦ hlog w _) fun _ _ ↦ ?_
  exact moves_passSignal hlog hfactory haction (r.passContext parent m.now) o

end Moving

/-- Each outcome of several passes side by side is that of a pass over its object. -/
theorem reaches_of_reconcileAll {objects : List Object} {m : Moment} {w : World}
    {outcomes : List (ObjectKey × Outcome)} (h : (r.reconcileAll objects).Reaches m w outcomes) :
    List.Forall₂ (fun o answer ↦ answer.1 = o.key ∧ ∃ w₀, (r.reconcile o).Reaches m w₀ answer.2)
      objects outcomes := by
  have hpasses := List.forall₂_map_left_iff.1 (Run.Reaches.forall₂ h)
  refine hpasses.imp fun o answer hanswer ↦ ?_
  obtain ⟨w₀, hpass⟩ := hanswer
  obtain ⟨outcome, hreaches, rfl⟩ := Run.reaches_map_iff.1 hpass
  exact ⟨rfl, w₀, hreaches⟩

end Reconciler

end ControlLoop
