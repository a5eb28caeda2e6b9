import ControlLoop.Proofs.Error.Contexts
import ControlLoop.Proofs.Pipeline.Composition
import ControlLoop.Proofs.Reconciler.Bound
import ControlLoop.Proofs.Reconciler.Passes
import ControlLoop.Proofs.Run.Alone

/-!
# What a pass reports

A pass writes its span and its start to the log, leaves the log to its factory and its action, and
closes with one entry. Between the start and that entry stands what the factory has logged and what
the action has logged by its reply, or by the wait in which it is abandoned. The closing entry, the
outcome and the failure count of the object are made from the same signal in the recording, so that
each can be read off the others.
-/

namespace ControlLoop

/-- The second world has the log of the first, with what has been added to it. -/
def World.LogGrows (w w' : World) : Prop := w.log <+: w'.log

instance : IsPreorder World World.LogGrows where
  refl w := List.prefix_refl w.log
  trans _ _ _ h h' := List.IsPrefix.trans h h'

theorem World.logGrows_logged (w : World) (e : LogEntry) : w.LogGrows (w.logged e) :=
  List.prefix_append _ _

namespace Outcome

/-- The entry that closes a pass with this outcome. -/
def entry (failures : UInt32) : Outcome → LogEntry
  | .done => .converged
  | .requeue after => .requeueRequested after
  | .failed e retryAfter => .passFailed e failures e.isRetryable retryAfter

/-- How that entry is written. -/
def line (failures : UInt32) : Outcome → LogLine
  | .done => .event .info "Object converged" []
  | .requeue after => .event .debug "Requeue requested" [("after_ms", toString after.millis)]
  | .failed e retryAfter =>
    .event .warning "Pass failed"
      [("error", e.message), ("failures", toString failures.toNat),
        ("retryable", toString e.isRetryable), ("retry_after_ms", toString retryAfter.millis)]

/-- The closing entry is written as the line of the outcome. -/
theorem line_entry (failures : UInt32) (outcome : Outcome) :
    (outcome.entry failures).line = outcome.line failures := by
  cases outcome <;> rfl

end Outcome

/-- What a recording leaves of the world: the counts after the pass and the closing entry. -/
theorem Act.record_snd (config : Config) (key : ObjectKey) (s : Signal) (m : Moment) (w : World) :
    (record config key s m w).2 =
      { w with
        failures := w.failures.afterPass key s
        log := w.log ++
          [(record config key s m w).1.entry ((w.failures.afterPass key s).count key)] } := by
  cases s with
  | propagate e =>
    rw [FailureCounts.count_afterPass_propagate]
    rfl
  | proceed | forget | requeue => rfl

/-- The closing entry agrees with the outcome and with the failure count after the pass. -/
structure Closes (config : Config) (key : ObjectKey) (outcome : Outcome) (after : World)
    (entry : LogEntry) : Prop where
  converged : entry = .converged ↔ outcome = .done
  requeued : ∀ delay, entry = .requeueRequested delay ↔ outcome = .requeue delay
  failed : ∀ e failures retryable delay, entry = .passFailed e failures retryable delay ↔
    outcome = .failed e delay ∧ failures = after.failures.count key ∧
      ∀ (root : Error) contexts, e = root.wrapAll contexts → retryable = root.isRetryable
  delay : ∀ e delay, outcome = .failed e delay →
    delay = config.backoff.delayFor (after.failures.count key)
  line : entry.line = outcome.line (after.failures.count key)

/-- The entry made of a signal and the count after it agrees with the outcome made of them. -/
theorem Closes.of_signal (config : Config) (key : ObjectKey) (s : Signal) (after : World) :
    let failures := after.failures.count key
    Closes config key (.ofSignal config failures s) after
      ((Outcome.ofSignal config failures s).entry failures) := by
  intro failures
  refine ⟨?_, fun delay ↦ ?_, fun e n retryable delay ↦ ?_, fun e delay h ↦ ?_,
    Outcome.line_entry _ _⟩
  · cases s <;> simp [Outcome.ofSignal, Outcome.entry]
  · cases s <;> simp [Outcome.ofSignal, Outcome.entry]
  · cases s with
    | propagate cause =>
      simp only [Outcome.ofSignal, Outcome.entry, LogEntry.passFailed.injEq, Outcome.failed.injEq]
      constructor
      · rintro ⟨rfl, rfl, rfl, rfl⟩
        refine ⟨⟨rfl, rfl⟩, rfl, fun root contexts h ↦ ?_⟩
        rw [h, Error.isRetryable_wrapAll]
      · rintro ⟨⟨rfl, rfl⟩, rfl, hretryable⟩
        exact ⟨rfl, rfl, (hretryable cause [] rfl).symm, rfl⟩
    | proceed | forget | requeue => simp [Outcome.ofSignal, Outcome.entry]
  · cases s with
    | propagate cause => exact (Outcome.failed.inj h).2.symm
    | proceed | forget | requeue => exact nomatch h

namespace Reconciler

variable (r : Reconciler) (parent ctx : Context) (o : Object) (m : Moment) (w : World)

/-- How a pass alone comes to its signal: its factory fails, which is an entry of its own, or its
action runs on the state that was built, up to its deadline. -/
inductive Signals : Signal → World → Instant → Prop
  | unbuilt {e : Error} {w' : World} {now : Instant}
      (build : (r.factory ctx o).settle m w = some (.error e, w', now)) :
      Signals (.propagate e) (w'.logged (.stateFailed e)) now
  | ran {state : State} {w' before : World} {later now : Instant} {s : Signal}
      (build : (r.factory ctx o).settle m w = some (.ok state, w', later))
      (run : (r.runBounded ctx state).settle { m with now := later } w' = some (s, before, now)) :
      Signals s before now

variable {r parent ctx o m w}

/-- A pass alone has its signal exactly if it comes to it in one of the two ways. -/
theorem settle_passSignal_iff {s : Signal} {before : World} {now : Instant} :
    (r.passSignal ctx o).settle m w = some (s, before, now) ↔
      r.Signals ctx o m w s before now := by
  unfold passSignal
  rw [Run.settle_bind]
  cases hbuild : (r.factory ctx o).settle m w with
  | none =>
    refine ⟨(nomatch ·), fun h ↦ ?_⟩
    cases h with
    | unbuilt build => exact nomatch hbuild.symm.trans build
    | ran build run => exact nomatch hbuild.symm.trans build
  | some built =>
    obtain ⟨result, w', later⟩ := built
    constructor
    · intro h
      cases result with
      | error e =>
        cases h
        exact .unbuilt hbuild
      | ok state => exact .ran hbuild h
    · intro h
      cases h with
      | unbuilt build =>
        cases hbuild.symm.trans build
        rfl
      | ran build run =>
        cases hbuild.symm.trans build
        exact run

theorem settle_reconcileWith :
    (r.reconcileWith parent o).settle m w =
      ((r.passSignal (r.passContext parent m.now) o).settle m (r.begun parent o w)).map
        fun (s, before, now) ↦
          ((Act.record r.config o.key s { m with now } before).1,
            (Act.record r.config o.key s { m with now } before).2, now) := by
  rw [reconcileWith_eq_bind, Run.settle_bind]
  have hsignal : (r.unrecorded parent o).settle m w =
      (r.passSignal (r.passContext parent m.now) o).settle m (r.begun parent o w) := rfl
  rw [hsignal]
  cases (r.passSignal (r.passContext parent m.now) o).settle m (r.begun parent o w) <;> rfl

/-! ## The entries of the factory and the action -/

section Entries

variable (r)

/-- How the action of a pass alone comes to its signal: by its reply, or by being abandoned once the
timer of the deadline has fired, in a world in which it waits. -/
inductive Acts (ctx : Context) (state : State) (m : Moment) (w : World) :
    Signal → World → Instant → Prop
  | replied {reply : Reply} {before : World} {now : Instant}
      (run : (r.action.run (some .pass) ctx state).settle m w = some (reply, before, now)) :
      Acts ctx state m w reply.signal before now
  | abandoned {due now : Instant} {before : World} {u : Wake}
      {resume : Moment → World → Progress Reply} {m' : Moment}
      (deadline : ctx.deadline = some due) (fired : due.timerTick ≤ now.tick)
      (waits : (r.action.run (some .pass) ctx state m w).Alone m (.waiting before u resume) m') :
      Acts ctx state m w (.propagate .deadlineExceeded) before now

/-- What a pass alone has logged when it has its signal: all that its factory logs, and then the
failure of the factory or what the action has logged by then. -/
inductive Logs (ctx : Context) (o : Object) (m : Moment) (w : World) :
    Signal → List LogEntry → Prop
  | unbuilt {e : Error} {w' : World} {now : Instant} {built : List LogEntry}
      (build : (r.factory ctx o).settle m w = some (.error e, w', now))
      (builds : w'.log = w.log ++ built) :
      Logs ctx o m w (.propagate e) (built ++ [.stateFailed e])
  | ran {state : State} {w' before : World} {later now : Instant} {s : Signal}
      {built acted : List LogEntry}
      (build : (r.factory ctx o).settle m w = some (.ok state, w', later))
      (builds : w'.log = w.log ++ built)
      (act : r.Acts ctx state { m with now := later } w' s before now)
      (acts : before.log = w'.log ++ acted) :
      Logs ctx o m w s (built ++ acted)

/-- The factory and the action take nothing back that has been logged. -/
structure Appends : Prop where
  factory : ∀ ctx o, (r.factory ctx o).Moves World.LogGrows
  action : ∀ ctx state, (r.action.run (some .pass) ctx state).Moves World.LogGrows

variable {r} {state : State} {s : Signal} {before : World} {now : Instant}

/-- The bounded action of a pass alone replies or is abandoned, and nothing else. -/
theorem acts_of_settle_runBounded
    (h : (r.runBounded ctx state).settle m w = some (s, before, now)) :
    r.Acts ctx state m w s before now := by
  cases hdeadline : ctx.deadline with
  | none =>
    unfold runBounded at h
    rw [hdeadline] at h
    dsimp only at h
    rw [Run.settle_map] at h
    obtain ⟨⟨reply, before', now'⟩, hrun, heq⟩ := Option.map_eq_some_iff.1 h
    cases heq
    exact .replied hrun
  | some due =>
    rw [runBounded_of_deadline r state hdeadline, unboundedRun, Run.settle_map,
      Run.settle_before_map, Option.map_map] at h
    obtain ⟨⟨result, before', now'⟩, hbounded, heq⟩ := Option.map_eq_some_iff.1 h
    cases heq
    rcases Progress.settle_before hbounded with ⟨reply, rfl, hrun⟩ |
      ⟨rfl, hfired, u, resume, m', hwaits⟩
    · exact .replied hrun
    · exact .abandoned hdeadline hfired hwaits

/-- Also where it is abandoned, the action has only added to the log. -/
theorem Acts.logGrows (h : r.Acts ctx state m w s before now) (hr : r.Appends) :
    w.LogGrows before := by
  cases h with
  | replied run => exact (hr.action ctx state).rel_of_settle run
  | abandoned deadline fired waits => exact (hr.action ctx state m w).rel_of_alone waits

/-- What the factory and the action leave in the log is what they have logged. -/
theorem Appends.exists_logs (hr : r.Appends) (h : r.Signals ctx o m w s before now) :
    ∃ entries, r.Logs ctx o m w s entries ∧ before.log = w.log ++ entries := by
  cases h with
  | unbuilt build =>
    obtain ⟨built, hbuilt⟩ := (hr.factory ctx o).rel_of_settle build
    refine ⟨_, .unbuilt build hbuilt.symm, ?_⟩
    rw [← List.append_assoc, hbuilt]
    rfl
  | ran build run =>
    obtain ⟨built, hbuilt⟩ := (hr.factory ctx o).rel_of_settle build
    have hact := acts_of_settle_runBounded run
    obtain ⟨acted, hacted⟩ := hact.logGrows hr
    refine ⟨_, .ran build hbuilt.symm hact hacted.symm, ?_⟩
    rw [← List.append_assoc, hbuilt, hacted]

end Entries

variable (r parent o m w)

/-- A pass alone is over exactly if its factory and action come to a signal. They start with a log
to which the span of the pass and its start have been added, and add what they log. The one entry
after theirs agrees with the outcome, which follows from the signal and the failure count of the
object after the pass; the recording does nothing else. -/
theorem reconcileWith_reports :
    (r.begun parent o w).log =
      w.log ++ [.passOpened o.kind o.key parent.span, .passStarted r.action.name] ∧
    (∀ s before now,
      r.Signals (r.passContext parent m.now) o m (r.begun parent o w) s before now →
      ∃ outcome after entry, (r.reconcileWith parent o).settle m w = some (outcome, after, now) ∧
        after =
          { before with
            failures := before.failures.afterPass o.key s
            log := before.log ++ [entry] } ∧
        outcome = .ofSignal r.config (after.failures.count o.key) s ∧
        Closes r.config o.key outcome after entry ∧
        (r.Appends → ∃ entries,
          r.Logs (r.passContext parent m.now) o m (r.begun parent o w) s entries ∧
          before.log =
            w.log ++ .passOpened o.kind o.key parent.span :: .passStarted r.action.name ::
              entries)) ∧
    ∀ outcome after now, (r.reconcileWith parent o).settle m w = some (outcome, after, now) →
      ∃ s before,
        r.Signals (r.passContext parent m.now) o m (r.begun parent o w) s before now := by
  have hbegun : (r.begun parent o w).log =
      w.log ++ [.passOpened o.kind o.key parent.span, .passStarted r.action.name] :=
    List.append_assoc _ _ _
  refine ⟨hbegun, fun s before now hsignal ↦ ?_, fun outcome after now hpass ↦ ?_⟩
  · have hsettled := settle_passSignal_iff.2 hsignal
    have houtcome := Act.record_fst r.config o.key s { m with now } before
    have hafter := Act.record_snd r.config o.key s { m with now } before
    rw [houtcome] at hafter
    let failures := (before.failures.afterPass o.key s).count o.key
    refine ⟨_, _, (Outcome.ofSignal r.config failures s).entry failures, ?_, rfl, rfl,
      Closes.of_signal r.config o.key s _, fun happends ↦ ?_⟩
    · rw [settle_reconcileWith, hsettled]
      exact congrArg some (Prod.ext houtcome (Prod.ext hafter rfl))
    · obtain ⟨entries, hlogs, hentries⟩ := happends.exists_logs hsignal
      refine ⟨entries, hlogs, ?_⟩
      rw [hentries, hbegun, List.append_assoc]
      rfl
  · rw [settle_reconcileWith] at hpass
    obtain ⟨⟨s, before, now'⟩, hsignal, heq⟩ := Option.map_eq_some_iff.1 hpass
    cases heq
    exact ⟨s, before, settle_passSignal_iff.1 hsignal⟩

/-- Logs that it has to wait and sleeps for 5 s. -/
def slow : Action where
  name := "slow"
  run _ ctx state := do
    Act.log (.failed "Still waiting" (.stepFailed "slow" "busy") ctx.fields (.requeue none))
    Run.sleep (.ofMillis 5000)
    return ⟨.proceed, ctx, state⟩

/-- A sequence of one slow action. -/
def slowly : Pipeline := .sequence "slowly" [.leaf slow]

theorem moves_slowly (ctx : Context) (state : State) :
    (slowly.action.run (some .pass) ctx state).Moves World.LogGrows := by
  refine Pipeline.moves_action (fun _ _ _ ↦ List.prefix_append _ _)
    (fun a hpart span ctx state ↦ ?_) (some .pass) ctx state
  cases hpart with
  | sequence mem part =>
    rw [List.mem_singleton.1 mem] at part
    cases part
    exact Run.moves_lift_bind (fun _ w ↦ w.logGrows_logged _) fun _ _ ↦
      (Run.moves_sleep _).bind fun _ ↦ Run.moves_pure _

/-- A pass of the slow sequence with a limit of 100 ms, abandoned after it has logged that it
waits. -/
theorem reconcileWith_reports_slowly :
    let r : Reconciler :=
      ⟨slowly.action, fun _ o ↦ pure (.ok { object := o }),
        { Config.default with passTimeout := some 100 }⟩
    let o : Object := ⟨"Lease", { name := "a" }, ∅, ""⟩
    let ctx := r.passContext (.background none) (momentAt 0).now
    let begun := r.begun (.background none) o {}
    let entries : List LogEntry :=
      [.sequenceOpened "slowly" (some .pass), .running "slow",
        .failed "Still waiting" (.stepFailed "slow" "busy") ctx.fields (.requeue none)]
    r.Appends ∧
      ∃ before,
        r.Signals ctx o (momentAt 0) begun (.propagate .deadlineExceeded) before ⟨100000000⟩ ∧
        r.Logs ctx o (momentAt 0) begun (.propagate .deadlineExceeded) entries ∧
        ∃ outcome after entry,
          (r.reconcile o).settle (momentAt 0) {} = some (outcome, after, ⟨100000000⟩) ∧
          outcome = .failed .deadlineExceeded (r.config.backoff.delayFor 1) ∧
          after.failures.count o.key = 1 ∧ Closes r.config o.key outcome after entry ∧
          entry = .passFailed .deadlineExceeded 1 true (r.config.backoff.delayFor 1) ∧
          after.log =
            .passOpened "Lease" o.key none :: .passStarted "slowly" :: entries ++ [entry] := by
  intro r o ctx begun entries
  have happends : r.Appends := ⟨fun _ _ ↦ Run.moves_pure _, moves_slowly⟩
  have hbuild : (r.factory ctx o).settle (momentAt 0) begun =
      some (.ok { object := o }, begun, (momentAt 0).now) := rfl
  have hdeadline : ctx.deadline = some ⟨100000000⟩ := rfl
  have hrun : ∃ before, (r.runBounded ctx { object := o }).settle (momentAt 0) begun =
        some (.propagate .deadlineExceeded, before, ⟨100000000⟩) ∧ before.failures = ∅ ∧
      before.log = .passOpened "Lease" o.key none :: .passStarted "slowly" :: entries := by
    rw [runBounded_of_deadline r _ hdeadline]
    exact ⟨_, rfl, rfl, rfl⟩
  obtain ⟨before, hrun, hfailures, hentries⟩ := hrun
  have hsignal : r.Signals ctx o (momentAt 0) begun (.propagate .deadlineExceeded) before
      ⟨100000000⟩ := .ran hbuild hrun
  obtain ⟨-, hreports, -⟩ := reconcileWith_reports r (.background none) o (momentAt 0) {}
  obtain ⟨outcome, after, entry, hsettle, hafter, houtcome, hcloses, hlog⟩ := hreports _ _ _ hsignal
  obtain ⟨logged, hlogs, hlogged⟩ := hlog happends
  have hstarted := (List.cons.inj (hentries.symm.trans hlogged)).2
  obtain rfl : entries = logged := (List.cons.inj hstarted).2
  have hcount : after.failures.count o.key = 1 := by
    rw [hafter, FailureCounts.count_afterPass_propagate, hfailures]
    rfl
  rw [hcount] at houtcome
  have hentry : entry = .passFailed .deadlineExceeded 1 true (r.config.backoff.delayFor 1) := by
    refine (hcloses.failed _ _ _ _).2 ⟨houtcome, hcount.symm, fun root contexts hroot ↦ ?_⟩
    rw [← root.isRetryable_wrapAll contexts, ← hroot]
    rfl
  refine ⟨happends, before, hsignal, hlogs, outcome, after, entry, hsettle, houtcome, hcount,
    hcloses, hentry, ?_⟩
  rw [hafter, hentries]

end Reconciler

end ControlLoop
