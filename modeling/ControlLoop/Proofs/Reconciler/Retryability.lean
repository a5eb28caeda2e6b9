import ControlLoop.Proofs.Pipeline.Rewrapping
import ControlLoop.Proofs.Reconciler.Reports

/-!
# What wrapping does to a pass

A failed pass is reported as retryable if the root of its error is, so contexts around the error do
not show in the report. Passes of two pipelines that differ by the contexts that status updates put
around their errors come to outcomes that differ by such contexts only, and are reported alike.
-/

namespace ControlLoop

namespace Outcome

/-- The outcome with the root of its error. -/
def unwrapped : Outcome → Outcome
  | .failed e retryAfter => .failed e.rootCause retryAfter
  | outcome => outcome

/-- The outcomes differ at most by contexts around an error. -/
def Akin (outcome outcome' : Outcome) : Prop := outcome.unwrapped = outcome'.unwrapped

/-- Whether a failed pass may do better next time. -/
def retryable? (outcome : Outcome) : Option Bool := outcome.error?.map Error.isRetryable

theorem unwrapped_ofSignal (config : Config) (failures : UInt32) (s : Signal) :
    (ofSignal config failures s).unwrapped = ofSignal config failures s.unwrapped := by
  cases s <;> rfl

/-- Contexts around the error do not show in what is said of a retry. -/
theorem retryable?_unwrapped (outcome : Outcome) :
    outcome.unwrapped.retryable? = outcome.retryable? := by
  cases outcome with
  | done | requeue => rfl
  | failed e retryAfter =>
    have hakin : e.rootCause.Akin e := e.rootCause_rootCause
    exact congrArg some hakin.isRetryable_eq

theorem Akin.retryable?_eq {outcome outcome' : Outcome} (h : outcome.Akin outcome') :
    outcome.retryable? = outcome'.retryable? := by
  rw [← retryable?_unwrapped outcome, h, retryable?_unwrapped]

theorem bind_retryable?_eq {x y : Option Outcome} (h : Option.Rel Akin x y) :
    x.bind retryable? = y.bind retryable? := by
  cases h with
  | none => rfl
  | some h => exact h.retryable?_eq

end Outcome

/-- What the report of a failed pass says about another one. -/
def LogEntry.retryable? : LogEntry → Option Bool
  | .passFailed _ _ retryable _ => some retryable
  | _ => none

/-- The closing entry says of a retry what the outcome says. -/
theorem Outcome.retryable?_entry (outcome : Outcome) (failures : UInt32) :
    (outcome.entry failures).retryable? = outcome.retryable? := by
  cases outcome <;> rfl

/-- What the report says with which a pass is over, if it has failed. -/
def Standing.reported? : Standing Outcome → Option Bool
  | .finished _ _ w _ => w.log.getLast?.bind LogEntry.retryable?
  | .waiting _ _ _ => none

namespace FailureCounts

theorem afterPass_unwrapped (f : FailureCounts) (key : ObjectKey) (s : Signal) :
    f.afterPass key s.unwrapped = f.afterPass key s := by
  cases s <;> rfl

end FailureCounts

/-- Signals that are akin are recorded with akin outcomes and the same counts. -/
theorem Act.related_record (config : Config) (key : ObjectKey) {s s' : Signal} (h : s.Akin s') :
    (record config key s).Related World.QuietlySame Outcome.Akin (record config key s') := by
  intro m w w' hw
  have hfailures : w.failures.afterPass key s = w'.failures.afterPass key s' := by
    rw [hw.failures_eq, ← FailureCounts.afterPass_unwrapped, h, FailureCounts.afterPass_unwrapped]
  constructor
  · unfold Outcome.Akin
    rw [record_fst, record_fst, hfailures, Outcome.unwrapped_ofSignal, h,
      Outcome.unwrapped_ofSignal]
  · rw [record_snd, record_snd, ← hfailures, hw.handles_eq, hw.store_eq]
    rfl

namespace Reconciler

section Alike

variable {a a' : Action} (haction : a.Alike a') {factory : StateFactory}
  (hfactory : ∀ ctx o, (factory ctx o).Related World.QuietlySame Eq (factory ctx o))
  (config : Config)

include haction

/-- Actions that are alike come to akin signals, also where a deadline cuts them off. -/
theorem related_runBounded (ctx : Context) (state : State) :
    (runBounded ⟨a, factory, config⟩ ctx state).Related World.QuietlySame Signal.Akin
      (runBounded ⟨a', factory, config⟩ ctx state) := by
  have hsignal : ((·.signal) <$> a.run (some .pass) ctx state).Related World.QuietlySame
      Signal.Akin ((·.signal) <$> a'.run (some .pass) ctx state) :=
    (haction (some .pass) ctx state).map fun _ _ hreply ↦ hreply.signal
  unfold runBounded
  cases ctx.deadline with
  | none => exact hsignal
  | some due =>
    refine (hsignal.before (fun _ _ hw ↦ hw.handles_eq) due).map fun s s' hs ↦ ?_
    cases hs with
    | none => rfl
    | some hs => exact hs

include hfactory

/-- Passes with actions that are alike come to akin signals. -/
theorem related_passSignal (ctx : Context) (o : Object) :
    (passSignal ⟨a, factory, config⟩ ctx o).Related World.QuietlySame Signal.Akin
      (passSignal ⟨a', factory, config⟩ ctx o) := by
  refine (hfactory ctx o).bind fun built built' hbuilt ↦ ?_
  subst hbuilt
  cases built with
  | ok state => exact related_runBounded haction config ctx state
  | error e =>
    exact (Run.related_lift (Act.related_log _ _)).bind fun _ _ _ ↦ Run.related_pure rfl

/-- Passes with actions that are alike have outcomes that are akin. -/
theorem related_reconcileWith (parent : Context) (o : Object) :
    (reconcileWith ⟨a, factory, config⟩ parent o).Related World.QuietlySame Outcome.Akin
      (reconcileWith ⟨a', factory, config⟩ parent o) := by
  have hread : (read : Act Moment).Related World.QuietlySame Eq read := fun _ _ _ hw ↦ ⟨rfl, hw⟩
  refine (Run.related_lift (Act.related_log _ _)).bind fun _ _ _ ↦
    (Run.related_lift hread).bind fun m m' hm ↦ ?_
  subst hm
  exact (Run.related_lift (Act.related_log _ _)).bind fun _ _ _ ↦
    (related_passSignal haction hfactory config _ o).bind fun s s' hs ↦
      Run.related_lift (Act.related_record config o.key hs)

end Alike

variable (r : Reconciler) (parent : Context) (o : Object) (m : Moment) (w : World)
  (polls : Schedule)

/-- A pass that is over has been closed with the entry of its outcome. -/
theorem exists_getLast?_of_play {outcome : Outcome} {m' : Moment} {after : World} {rest : Schedule}
    (h : (r.reconcileWith parent o).play m w polls = .finished outcome m' after rest) :
    ∃ failures, after.log.getLast? = some (outcome.entry failures) := by
  rw [reconcileWith_eq_bind, Run.play_bind] at h
  cases hsignal : (r.unrecorded parent o).play m w polls with
  | waiting m₁ w₁ u =>
    rw [hsignal] at h
    cases h
  | finished s m₁ before rest₁ =>
    rw [hsignal] at h
    have hover : Standing.finished (Act.record r.config o.key s m₁ before).1 m₁
        (Act.record r.config o.key s m₁ before).2 rest₁ = .finished outcome m' after rest := h
    obtain ⟨houtcome, -, hafter, -⟩ := Standing.finished.inj hover
    rw [← hafter, ← houtcome, Act.record_snd]
    exact ⟨_, List.getLast?_concat⟩

theorem reported?_play :
    ((r.reconcileWith parent o).play m w polls).reported? =
      ((r.reconcileWith parent o).play m w polls).value?.bind Outcome.retryable? := by
  cases hpass : (r.reconcileWith parent o).play m w polls with
  | waiting m' w' u => rfl
  | finished outcome m' after rest =>
    obtain ⟨failures, hlast⟩ := exists_getLast?_of_play r parent o m w polls hpass
    change after.log.getLast?.bind LogEntry.retryable? = outcome.retryable?
    rw [hlast]
    exact outcome.retryable?_entry failures

end Reconciler

/-- An error in any contexts is at its root what it is without them, and as retryable. So a pass
that fails with it is reported as retryable if the error without its contexts is, and no contexts
that the wrappers of status updates add change whether a pass fails, or how a failed pass is
reported. -/
theorem wrapping_keeps_identity_and_report :
    (∀ (e : Error) contexts, e.Enclosed contexts (e.wrapAll contexts)) ∧
    (∀ (r : Reconciler) parent o m w polls (e : Error) contexts delay m' after rest,
      (r.reconcileWith parent o).play m w polls =
        .finished (.failed (e.wrapAll contexts) delay) m' after rest →
      ∃ failures, after.log.getLast? =
        some (.passFailed (e.wrapAll contexts) failures e.isRetryable delay)) ∧
    ∀ p q, Pipeline.Rewraps p q → ∀ factory config,
      (∀ ctx o, (factory ctx o).Related World.QuietlySame Eq (factory ctx o)) →
      ∀ parent o m w w' polls polls', w.QuietlySame w' →
        Schedule.Related World.QuietlySame polls polls' →
        let pass := (Reconciler.reconcileWith ⟨p.action, factory, config⟩ parent o).play m w polls
        let pass' :=
          (Reconciler.reconcileWith ⟨q.action, factory, config⟩ parent o).play m w' polls'
        Option.Rel Outcome.Akin pass.value? pass'.value? ∧ pass.reported? = pass'.reported? := by
  refine ⟨Error.enclosed_wrapAll, ?_, ?_⟩
  · intro r parent o m w polls e contexts delay m' after rest hpass
    obtain ⟨failures, hlast⟩ := r.exists_getLast?_of_play parent o m w polls hpass
    rw [← e.isRetryable_wrapAll contexts]
    exact ⟨failures, hlast⟩
  · intro p q hrewraps factory config hfactory parent o m w w' polls polls' hw hpolls pass pass'
    have hpasses := Reconciler.related_reconcileWith hrewraps.alike hfactory config parent o
    have hvalues : Option.Rel Outcome.Akin pass.value? pass'.value? :=
      (hpasses m w w' hw).rel_value?_play hpolls m
    refine ⟨hvalues, ?_⟩
    calc pass.reported? = pass.value?.bind Outcome.retryable? := Reconciler.reported?_play ..
      _ = pass'.value?.bind Outcome.retryable? := Outcome.bind_retryable?_eq hvalues
      _ = pass'.reported? := (Reconciler.reported?_play ..).symm

namespace Pipeline

/-- Renews a lease and passes a failed write on. -/
def renewing : StatusUpdate where
  conditions := [{ type := "Ready", status := .affirmed }]
  onError := some fun _ ctx e ↦ pure (.propagate e, ctx)

/-- Goes on to renew the lease, with the errors wrapped as given. -/
def renewal (f : ErrorWrapper) : Pipeline :=
  .sequence "renewal" [.leaf .proceed, .leaf (renewing.withWrapper f).action]

def labelled : ErrorWrapper := fun e ↦ pure (e.wrapAll ["renewing", "lease"])

theorem indifferent_renewing : renewing.Indifferent where
  wrapper _ := Act.related_pure rfl
  onError hook hhook span ctx e e' he := by
    cases hhook
    exact Act.related_pure ⟨Signal.akin_propagate he, rfl⟩
  onSuccess hook hhook := by cases hhook

theorem rewraps_renewal : Rewraps (renewal pure) (renewal labelled) := by
  have hproceed : Action.proceed.Alike Action.proceed := fun _ _ _ ↦
    Run.related_pure ⟨rfl, rfl, rfl⟩
  have hwrapper : renewing.wrapper.WrapsMore labelled := fun _ _ _ ↦ ⟨["renewing", "lease"], rfl⟩
  have hupdate : Rewraps (.leaf renewing.action) (.leaf (renewing.withWrapper labelled).action) :=
    .update indifferent_renewing hwrapper
  exact .sequence "renewal" (.cons (.leaf hproceed) (.cons hupdate .nil))

def lease (version : UInt64) : Object :=
  ⟨"Lease", { name := "a", resourceVersion := version }, ∅, ""⟩

/-- The lease has been written since it was read. -/
def taken : World := { store := Store.ofList [lease 2] }

/-- Builds its states at once and renews. -/
def renewer (f : ErrorWrapper) : Reconciler :=
  ⟨(renewal f).action, fun _ o ↦ pure (.ok { object := o }), .default⟩

def renewalPass (f : ErrorWrapper) : Standing Outcome :=
  ((renewer f).reconcile (lease 1)).play ⟨⟨0⟩, .read 0⟩ taken []

/-- The renewal fails with a conflict, and with labels around it is reported as it is without. -/
theorem wrapping_keeps_identity_and_report_renewal :
    let conflict : Error := .conflict "a" 2 1
    let labels := ["renewing", "lease"]
    let delay := Config.default.backoff.delayFor 1
    conflict.Enclosed labels (conflict.wrapAll labels) ∧
      Rewraps (renewal pure) (renewal labelled) ∧
      (renewalPass pure).value? = some (.failed conflict delay) ∧
      (renewalPass pure).reported? = some true ∧ (renewalPass labelled).reported? = some true ∧
      ∃ m after rest,
        renewalPass labelled = .finished (.failed (conflict.wrapAll labels) delay) m after rest ∧
        ∃ failures, after.log.getLast? =
          some (.passFailed (conflict.wrapAll labels) failures true delay) := by
  intro conflict labels delay
  obtain ⟨henclosed, hreported, hrewrapped⟩ := wrapping_keeps_identity_and_report
  have hplain : (renewalPass pure).reported? = some true := by rfl
  have hfactory : ∀ ctx o, ((renewer pure).factory ctx o).Related World.QuietlySame Eq
      ((renewer pure).factory ctx o) := fun _ _ ↦ Run.related_pure rfl
  obtain ⟨-, hsame⟩ := hrewrapped _ _ rewraps_renewal _ .default hfactory (.background none)
    (lease 1) ⟨⟨0⟩, .read 0⟩ taken taken [] [] rfl .nil
  obtain ⟨m, after, rest, hlabelled⟩ : ∃ m after rest,
      renewalPass labelled = .finished (.failed (conflict.wrapAll labels) delay) m after rest :=
    ⟨_, _, _, rfl⟩
  have hclosed := hreported (renewer labelled) _ _ _ _ _ conflict labels delay m after rest
    hlabelled
  exact ⟨henclosed conflict labels, rewraps_renewal, rfl, hplain, hsame.symm.trans hplain, m, after,
    rest, hlabelled, hclosed⟩

end Pipeline

end ControlLoop
