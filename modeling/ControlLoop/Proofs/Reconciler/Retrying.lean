import ControlLoop.Proofs.Condition.Clocks
import ControlLoop.Proofs.Reconciler.Passes
import ControlLoop.Proofs.StatusUpdate.Application
import ControlLoop.Session.Passes

/-!
# Retrying a status update

A pass whose write fails has changed only its own copy of the object, so the next pass, from a copy
that is fetched afresh, is the first one over again. Once no failure is queued any more the write
succeeds, since nothing else has written the object since it was fetched, and what is stored then is
what would have been stored without the failures, up to the clock.
-/

namespace ControlLoop

/-- The failures of an object after `n` further passes, at least one, that all end with the
signal. -/
def Signal.failuresAfter (count n : Nat) : Signal → Nat
  | .propagate _ => min (count + n) (UInt32.size - 1)
  | _ => 0

namespace FailureCounts

variable (f : FailureCounts) (key : ObjectKey) {s : Signal}

/-- A pass that does not fail leaves no failures of its key. -/
theorem count_afterPass_of_ne_propagate (h : ∀ e, s ≠ .propagate e) :
    (f.afterPass key s).count key = 0 := by
  cases s with
  | propagate e => exact absurd rfl (h e)
  | proceed | forget | requeue => exact f.count_clear_self key

theorem toNat_count_afterPass (s : Signal) :
    ((f.afterPass key s).count key).toNat = s.failuresAfter (f.count key).toNat 1 := by
  cases s with
  | propagate e =>
    rw [count_afterPass_propagate]
    exact f.toNat_next key
  | proceed | forget | requeue => exact congrArg UInt32.toNat (f.count_clear_self key)

end FailureCounts

/-- A pass that has its signal at once is over at once. -/
theorem Reconciler.settle_reconcileWith_of_finished {r : Reconciler} {parent : Context} {o : Object}
    {m : Moment} {w before : World} {s : Signal}
    (h : r.unrecorded parent o m w = .finished s before) :
    (r.reconcileWith parent o).settle m w =
      some (.ofSignal r.config ((before.failures.afterPass o.key s).count o.key) s,
        (Act.record r.config o.key s m before).2, m.now) := by
  rw [reconcileWith_eq_bind]
  change ((r.unrecorded parent o m w).andThen _ m).settle m = _
  rw [h, ← Act.record_fst r.config o.key s m before]
  rfl

namespace StatusUpdate

variable (u : StatusUpdate)

/-- An update without hooks. Its wrapper makes errors of errors and may leave its mark anywhere but
in the store and the failure counts. -/
structure IsPlain : Prop where
  onError : u.onError = none
  onSuccess : u.onSuccess = none
  wrapper : ∀ e m w, (u.wrapper e m w).2.store = w.store ∧ (u.wrapper e m w).2.failures = w.failures

/-- The signal that answers a write. -/
def signalFor : Except Error Object → Signal
  | .ok _ => u.successSignal
  | .error _ => u.failedSignal

/-- The update makes the same of an object whenever it is applied, up to the clock. -/
theorem eqUpTo_objectAfter (clock later : Stamp) (o : Object) :
    (u.objectAfter clock o).advanced.EqUpTo clock later (u.objectAfter later o).advanced where
  kind := rfl
  metadata := rfl
  conditions := (Conditions.EqUpTo.refl (o.conditions.removeAll (u.stale o.conditions))).setAll
    u.conditions
  spec := rfl

/-- The reconciler whose only action is the update. -/
def reconciler (config : Config) : Reconciler := ⟨u.action, .base, config⟩

/-- No deadline comes between the start of an update and its end. -/
theorem unrecorded_reconciler (config : Config) (parent : Context) (o : Object) (m : Moment)
    (w : World) :
    (u.reconciler config).unrecorded parent o m w =
      Run.ofAct ((·.signal) <$> u.apply (some .pass)
        ((u.reconciler config).passContext parent m.now) { object := o }) m
        ((u.reconciler config).begun parent o w) := by
  have hbounded (ctx : Context) (state : State) : (u.reconciler config).runBounded ctx state =
      Run.ofAct ((·.signal) <$> u.apply (some .pass) ctx state) := by
    unfold Reconciler.runBounded
    cases ctx.deadline with
    | none => rfl
    | some due => rfl
  rw [← hbounded]
  rfl

variable {u} (h : u.IsPlain) (span : Option Span) (ctx : Context) (state : State) (m : Moment)
  (w : World)
include h

theorem IsPlain.respond (object : Object) (answer : Except Error Object) :
    (u.respond span ctx state object answer m w).1.signal = u.signalFor answer ∧
      (u.respond span ctx state object answer m w).2.store = w.store ∧
      (u.respond span ctx state object answer m w).2.failures = w.failures := by
  cases answer with
  | ok written =>
    unfold StatusUpdate.respond answerSuccess
    rw [h.onSuccess]
    exact ⟨rfl, rfl, rfl⟩
  | error e =>
    obtain ⟨hstore, hfailures⟩ := h.wrapper e m w
    unfold StatusUpdate.respond answerFailure
    rw [h.onError]
    exact ⟨rfl, hstore, hfailures⟩

/-- An update without hooks does to the store and the failure counts what its write does. -/
theorem IsPlain.apply :
    (u.apply span ctx state m w).1.signal =
        u.signalFor (w.store.update (u.objectAfter m.clock state.object)).1 ∧
      (u.apply span ctx state m w).2.store =
        (w.store.update (u.objectAfter m.clock state.object)).2 ∧
      (u.apply span ctx state m w).2.failures = w.failures := by
  have hpersisted : u.apply span ctx state m w =
      u.respond span ctx state (u.objectAfter m.clock state.object)
        (Act.persist (u.objectAfter m.clock state.object) m (u.noted state.object w)).1 m
        (Act.persist (u.objectAfter m.clock state.object) m (u.noted state.object w)).2 :=
    u.apply_eq span ctx state m w
  obtain ⟨hsignal, hstore, hfailures⟩ := h.respond span ctx state m
    (Act.persist (u.objectAfter m.clock state.object) m (u.noted state.object w)).2
    (u.objectAfter m.clock state.object)
    (Act.persist (u.objectAfter m.clock state.object) m (u.noted state.object w)).1
  rw [hpersisted, hsignal, hstore, hfailures, Act.persist_fst, Act.store_persist,
    Act.failures_persist, store_noted, failures_noted]
  exact ⟨rfl, rfl, rfl⟩

/-- A pass of an update without hooks is over at once, and does to the store what its write does. -/
theorem IsPlain.settle_reconcileWith (config : Config) (parent : Context) {o : Object}
    {answer : Except Error Object} {store : Store}
    (hwrite : w.store.update (u.objectAfter m.clock o) = (answer, store)) :
    ∃ after, ((u.reconciler config).reconcileWith parent o).settle m w =
        some (.ofSignal config (after.failures.count o.key) (u.signalFor answer), after, m.now) ∧
      after.store = store ∧
      after.failures = w.failures.afterPass o.key (u.signalFor answer) := by
  let ctx := (u.reconciler config).passContext parent m.now
  let before := (u.apply (some .pass) ctx { object := o } m
    ((u.reconciler config).begun parent o w)).2
  have hupdate : ((u.reconciler config).begun parent o w).store.update (u.objectAfter m.clock o) =
      (answer, store) := hwrite
  obtain ⟨hsignal, hstore, hfailures⟩ := h.apply (some .pass) ctx { object := o } m
    ((u.reconciler config).begun parent o w)
  rw [hupdate] at hsignal hstore
  have hrun : (u.reconciler config).unrecorded parent o m w =
      .finished (u.signalFor answer) before := by
    rw [unrecorded_reconciler, ← hsignal]
    rfl
  have hcounts : (Act.record config o.key (u.signalFor answer) m before).2.failures =
      w.failures.afterPass o.key (u.signalFor answer) := by
    rw [Act.failures_record, hfailures]
    rfl
  refine ⟨(Act.record config o.key (u.signalFor answer) m before).2, ?_, ?_, hcounts⟩
  · rw [Reconciler.settle_reconcileWith_of_finished hrun, ← Act.failures_record config]
    rfl
  · rw [Act.store_record, hstore]

end StatusUpdate

/-- The circumstances of a pass: its moment, the parent of its context, and how the handles stand by
then. -/
structure PassStart where
  moment : Moment
  parent : Context
  handles : Handles

/-- What a pass comes to: its outcome and the world that it leaves. -/
structure PassResult where
  outcome : Outcome
  world : World

namespace Reconciler

variable (r : Reconciler) (key : ObjectKey)

/-- A pass over the object of a key, fetched as the pass begins. It comes to nothing if there is no
such object or if it waits for what never comes. -/
def attempt (a : PassStart) (w : World) : Option PassResult := do
  let o ← w.store.get? key
  let (outcome, world, _) ←
    (r.reconcileWith a.parent o).settle a.moment { w with handles := a.handles }
  return ⟨outcome, world⟩

/-- One pass after the other. -/
def attempts : List PassStart → World → Option (List PassResult)
  | [], _ => some []
  | a :: as, w => do
    let first ← r.attempt key a w
    let rest ← attempts as first.world
    return first :: rest

end Reconciler

namespace StatusUpdate

/-- What the last of `n` passes comes to if all of them fail to write. -/
structure FailedPass (u : StatusUpdate) (config : Config) (key : ObjectKey) (w : World) (n : Nat)
    (result : PassResult) : Prop where
  objects : result.world.store.objects = w.store.objects
  writes : result.world.store.writes = w.store.writes
  failures : result.world.store.failures = w.store.failures.drop n
  count : (result.world.failures.count key).toNat =
    u.failedSignal.failuresAfter (w.failures.count key).toNat n
  outcome : result.outcome =
    .ofSignal config (result.world.failures.count key) u.failedSignal

/-- What a pass over an object comes to if nothing fails. -/
structure ConvergedPass (u : StatusUpdate) (config : Config) (o : Object) (clock : Stamp)
    (w : World) (result : PassResult) : Prop where
  stored : result.world.store.get? o.key = some (u.objectAfter clock o).advanced
  others : ∀ key, key ≠ o.key → result.world.store.get? key = w.store.get? key
  writes : result.world.store.writes = saturatingAdd64 w.store.writes 1
  failures : result.world.store.failures = []
  count : result.world.failures.count o.key = 0
  outcome : result.outcome = .ofSignal config 0 u.successSignal

variable {u : StatusUpdate} {config : Config} {key : ObjectKey} {o : Object} {w : World}

/-- A failed pass leaves the store to the next one as it was, but for the failure it has used up. -/
theorem FailedPass.trans {first result : PassResult} {n : Nat}
    (hfirst : u.FailedPass config key w 1 first)
    (hresult : u.FailedPass config key first.world (n + 1) result) :
    u.FailedPass config key w (n + 1 + 1) result where
  objects := hresult.objects.trans hfirst.objects
  writes := hresult.writes.trans hfirst.writes
  failures := by
    rw [hresult.failures, hfirst.failures, List.drop_drop, Nat.add_comm]
  count := by
    rw [hresult.count, hfirst.count]
    cases u.failedSignal with
    | propagate e =>
      simp only [Signal.failuresAfter]
      omega
    | proceed | forget | requeue => rfl
  outcome := hresult.outcome

theorem FailedPass.get? {result : PassResult} {n : Nat}
    (h : u.FailedPass config key w n result) (other : ObjectKey) :
    result.world.store.get? other = w.store.get? other := by
  unfold Store.get?
  rw [h.objects]

theorem ConvergedPass.of_failedPass {first result : PassResult} {n : Nat} {clock : Stamp}
    (hfirst : u.FailedPass config key w n first)
    (hresult : u.ConvergedPass config o clock first.world result) :
    u.ConvergedPass config o clock w result where
  stored := hresult.stored
  others other hother := (hresult.others other hother).trans (hfirst.get? other)
  writes := by
    rw [hresult.writes, hfirst.writes]
  failures := hresult.failures
  count := hresult.count
  outcome := hresult.outcome

variable (h : u.IsPlain) (hstored : w.store.get? o.key = some o)
include h hstored

theorem IsPlain.attempt_eq (config : Config) (a : PassStart) {answer : Except Error Object}
    {store : Store} (hwrite : w.store.update (u.objectAfter a.moment.clock o) = (answer, store)) :
    ∃ after, (u.reconciler config).attempt o.key a w =
        some ⟨.ofSignal config (after.failures.count o.key) (u.signalFor answer), after⟩ ∧
      after.store = store ∧
      after.failures = w.failures.afterPass o.key (u.signalFor answer) := by
  obtain ⟨after, hpass, hstore, hfailures⟩ :=
    h.settle_reconcileWith a.moment { w with handles := a.handles } config a.parent hwrite
  refine ⟨after, ?_, hstore, hfailures⟩
  unfold Reconciler.attempt
  rw [hstored, Option.bind_eq_bind, Option.bind_some, hpass]
  rfl

/-- With a failure queued, a pass stores nothing, uses the failure up and answers a failed write. -/
theorem IsPlain.failedPass_attempt (config : Config) (a : PassStart) {e : Error} {rest : List Error}
    (hfailures : w.store.failures = e :: rest) :
    ∃ result, (u.reconciler config).attempt o.key a w = some result ∧
      u.FailedPass config o.key w 1 result := by
  have hwrite : w.store.update (u.objectAfter a.moment.clock o) =
      (.error e, { w.store with failures := rest }) := by
    unfold Store.update
    rw [hfailures]
  obtain ⟨after, hpass, hstore, hcounts⟩ := h.attempt_eq hstored config a hwrite
  have hcount : (after.failures.count o.key).toNat =
      u.failedSignal.failuresAfter (w.failures.count o.key).toNat 1 := by
    rw [hcounts]
    exact w.failures.toNat_count_afterPass o.key u.failedSignal
  refine ⟨_, hpass, ?_, ?_, ?_, hcount, rfl⟩
  · rw [hstore]
  · rw [hstore]
  · rw [hstore, hfailures]
    rfl

/-- With no failure queued, a pass over the stored object stores what the update makes of it. -/
theorem IsPlain.convergedPass_attempt (hsuccess : ∀ e, u.successSignal ≠ .propagate e)
    (config : Config) (a : PassStart) (hfailures : w.store.failures = []) :
    ∃ result, (u.reconciler config).attempt o.key a w = some result ∧
      u.ConvergedPass config o a.moment.clock w result := by
  have hwrite := Store.update_of_version_eq (o := u.objectAfter a.moment.clock o) hfailures hstored
    rfl
  obtain ⟨after, hpass, hstore, hcounts⟩ := h.attempt_eq hstored config a hwrite
  have hcount : after.failures.count o.key = 0 := by
    rw [hcounts]
    exact w.failures.count_afterPass_of_ne_propagate o.key hsuccess
  have hget (key : ObjectKey) : after.store.get? key =
      if o.key = key then some (u.objectAfter a.moment.clock o).advanced else w.store.get? key := by
    rw [hstore]
    exact w.store.get?_insert (u.objectAfter a.moment.clock o).advanced key
  refine ⟨_, hpass, ?_, fun key hkey ↦ ?_, ?_, ?_, hcount, ?_⟩
  · rw [hget, if_pos rfl]
  · rw [hget, if_neg hkey.symm]
  · rw [hstore]
  · rw [hstore]
    exact hfailures
  · rw [hcount]
    rfl

/-- If `n` failures are queued, `n` passes fail to write and the next one converges. -/
theorem IsPlain.exists_attempts (hsuccess : ∀ e, u.successSignal ≠ .propagate e)
    (config : Config) (starts : List PassStart) (last : PassStart)
    (hstarts : starts.length = w.store.failures.length) :
    ∃ failed final, (u.reconciler config).attempts o.key (starts ++ [last]) w =
        some (failed ++ [final]) ∧
      failed.length = starts.length ∧
      (∀ i (hi : i < failed.length), u.FailedPass config o.key w (i + 1) failed[i]) ∧
      u.ConvergedPass config o last.moment.clock w final := by
  induction starts generalizing w with
  | nil =>
    have hfailures : w.store.failures = [] := List.length_eq_zero_iff.1 hstarts.symm
    obtain ⟨final, hfinal, hconverged⟩ :=
      h.convergedPass_attempt hstored hsuccess config last hfailures
    refine ⟨[], final, ?_, rfl, (fun i hi ↦ nomatch hi), hconverged⟩
    simp only [List.nil_append, Reconciler.attempts, hfinal]
    rfl
  | cons a as ih =>
    obtain ⟨e, rest, hfailures⟩ := List.exists_cons_of_length_eq_add_one hstarts.symm
    obtain ⟨first, hfirst, hfailed⟩ := h.failedPass_attempt hstored config a hfailures
    have hstill : first.world.store.get? o.key = some o := (hfailed.get? o.key).trans hstored
    have hrest : as.length = first.world.store.failures.length := by
      rw [hfailed.failures, List.length_drop, ← hstarts, List.length_cons, Nat.add_sub_cancel]
    obtain ⟨failed, final, hpasses, hlength, hlater, hconverged⟩ := ih hstill hrest
    refine ⟨first :: failed, final, ?_, ?_, ?_, hconverged.of_failedPass hfailed⟩
    · simp only [List.cons_append, Reconciler.attempts, hfirst, Option.bind_eq_bind,
        Option.bind_some, hpasses]
      rfl
    · rw [List.length_cons, List.length_cons, hlength]
    · intro i hi
      cases i with
      | zero => exact hfailed
      | succ i => exact hfailed.trans (hlater i (Nat.lt_of_succ_lt_succ hi))

/-- If `n` failures are queued, `n` passes fail to write and leave the stored object as it is, and
the next one stores what a single pass without failures would have stored, up to the clock. -/
theorem IsPlain.attempts_converge (hsuccess : ∀ e, u.successSignal ≠ .propagate e)
    (config : Config) (starts : List PassStart) (last : PassStart)
    (hstarts : starts.length = w.store.failures.length) :
    ∃ failed final, (u.reconciler config).attempts o.key (starts ++ [last]) w =
        some (failed ++ [final]) ∧
      failed.length = starts.length ∧
      (∀ i (hi : i < failed.length), u.FailedPass config o.key w (i + 1) failed[i]) ∧
      u.ConvergedPass config o last.moment.clock w final ∧
      ∀ a other, other.store.get? o.key = some o → other.store.failures = [] →
        ∃ single stored unfailed,
          (u.reconciler config).attempt o.key a other = some single ∧
          final.world.store.get? o.key = some stored ∧
          single.world.store.get? o.key = some unfailed ∧
          stored.EqUpTo last.moment.clock a.moment.clock unfailed ∧
          stored.version.toNat = min (o.version.toNat + 1) (UInt64.size - 1) := by
  obtain ⟨failed, final, hpasses, hlength, hfailed, hconverged⟩ :=
    h.exists_attempts hstored hsuccess config starts last hstarts
  refine ⟨failed, final, hpasses, hlength, hfailed, hconverged, fun a other hother hnone ↦ ?_⟩
  obtain ⟨single, hsingle, hunfailed⟩ := h.convergedPass_attempt hother hsuccess config a hnone
  exact ⟨single, _, _, hsingle, hconverged.stored, hunfailed.stored,
    u.eqUpTo_objectAfter last.moment.clock a.moment.clock o,
    (u.objectAfter last.moment.clock o).toNat_version_advanced⟩

omit h hstored

/-- Sets one condition and passes a failed write on. -/
def announcing : StatusUpdate where
  conditions := [{ type := "Ready", status := .affirmed }]
  failedSignal := .propagate .cancelled

def lease : Object := ⟨"Lease", { name := "a" }, ∅, ""⟩

/-- A store with the lease and two failures. -/
def troubled : World where
  store := ((Store.insert ∅ lease).failNext .cancelled).failNext .deadlineExceeded

def startAt (nanos : Nat) : PassStart := ⟨⟨⟨nanos⟩, .read nanos⟩, .background none, ∅⟩

/-- Two passes fail, the second with a count of two, and the third converges. -/
theorem attempts_converge_announcing :
    announcing.IsPlain ∧ (∀ e, announcing.successSignal ≠ .propagate e) ∧
      troubled.store.get? lease.key = some lease ∧
      [startAt 1, startAt 2].length = troubled.store.failures.length ∧
      ∃ failed final, (announcing.reconciler .default).attempts lease.key
          [startAt 1, startAt 2, startAt 3] troubled = some (failed ++ [final]) ∧
        failed.length = 2 ∧
        (∀ i (hi : i < failed.length),
          announcing.FailedPass .default lease.key troubled (i + 1) failed[i]) ∧
        final.outcome = .done ∧
        final.world.store.get? lease.key =
          some (announcing.objectAfter (.read 3) lease).advanced ∧
        ∃ stored, final.world.store.get? lease.key = some stored ∧ stored.version = 1 ∧
          stored.conditions.entries =
            [{ type := "Ready", status := .affirmed, lastTransition := some (.read 3) }] := by
  have hplain : announcing.IsPlain := ⟨rfl, rfl, fun _ _ _ ↦ ⟨rfl, rfl⟩⟩
  have hsuccess : ∀ e, announcing.successSignal ≠ .propagate e := fun _ ↦ Signal.noConfusion
  have hstored : troubled.store.get? lease.key = some lease :=
    (Store.get?_insert ∅ lease lease.key).trans (if_pos rfl)
  have hstarts : [startAt 1, startAt 2].length = troubled.store.failures.length := rfl
  obtain ⟨failed, final, hpasses, hlength, hfailed, hconverged, -⟩ :=
    hplain.attempts_converge hstored hsuccess .default _ (startAt 3) hstarts
  exact ⟨hplain, hsuccess, hstored, hstarts, failed, final, hpasses, hlength, hfailed,
    hconverged.outcome, hconverged.stored, _, hconverged.stored, rfl, rfl⟩

end StatusUpdate

end ControlLoop
