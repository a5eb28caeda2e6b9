import ControlLoop.Proofs.Scope.Composers
import ControlLoop.Proofs.Scope.Interleaving
import ControlLoop.Session.Passes

/-!
# Passes side by side

Passes over objects of different keys share the store, the failure counts and the clock. If the
action and the factory reach no more in each pass than the scope of its object, then however the
passes are interleaved each comes to the outcome, leaves the stored object and leaves the failure
count that it would alone, from any world that agrees on its scope with the one they share.
-/

namespace ControlLoop

namespace Reconciler

variable (r : Reconciler)

/-- In a pass over the object the factory and the action are admitted by the scope. -/
def Minds (d : Scope) (o : Object) : Prop :=
  ∀ now, d.Admits
    (fun built ↦ ∀ state, built = .ok state →
      d.Admits (fun _ ↦ True)
        (r.action.run (some .pass) (r.passContext (.background none) now) state))
    (r.factory (r.passContext (.background none) now) o)

variable {r} {d : Scope} {o : Object}

/-- The limit of a pass adds a deadline to its context and no token. -/
theorem tokens_passContext (parent : Context) (now : Instant) :
    (r.passContext parent now).tokens = parent.tokens := by
  unfold passContext
  dsimp only
  cases r.config.passLimit with
  | none => rfl
  | some limit =>
    unfold Context.withTimeout
    dsimp only
    cases now.after? limit with
    | none => rfl
    | some due => rfl

/-- A reconciler minds a scope if its action keeps to it and its factory makes states of it. -/
theorem minds_of_keepsTo (haction : r.action.KeepsTo d)
    (hfactory : ∀ ctx, d.OwnsTokens ctx.tokens →
      d.Admits (fun built ↦ ∀ state, built = .ok state → state.object.key = d.key)
        (r.factory ctx o)) : r.Minds d o := by
  intro now
  have htokens : d.OwnsTokens (r.passContext (.background none) now).tokens := by
    rw [tokens_passContext]
    exact d.ownsTokens_nil
  refine (hfactory _ htokens).mono fun built hbuilt state hstate ↦ ?_
  exact (haction (some .pass) _ state ⟨htokens, hbuilt state hstate⟩).mono fun _ _ ↦ trivial

theorem within_runBounded {ctx : Context} {state : State}
    (h : d.Admits (fun _ ↦ True) (r.action.run (some .pass) ctx state)) :
    (r.runBounded ctx state).Within d fun _ ↦ True := by
  have hsignal : ((·.signal) <$> r.action.run (some .pass) ctx state).Within d fun _ ↦ True :=
    h.within.map _ fun _ _ ↦ trivial
  unfold runBounded
  cases ctx.deadline with
  | none => exact hsignal
  | some due => exact (hsignal.before due).map _ fun _ _ ↦ trivial

/-- A pass whose factory and action are admitted comes to its signal within the scope. -/
theorem within_passSignal (h : r.Minds d o) (now : Instant) :
    (r.passSignal (r.passContext (.background none) now) o).Within d fun _ ↦ True := by
  unfold passSignal
  refine (h now).within.bind fun built hbuilt ↦ ?_
  cases built with
  | ok state => exact within_runBounded (hbuilt state rfl)
  | error e =>
    exact (Scope.Admits.log (.stateFailed e)).within.bind fun _ _ ↦ Run.within_pure trivial

/-- A pass over an object is within the scope of its key. -/
theorem within_reconcile (h : r.Minds d o) (hkey : o.key = d.key) :
    (r.reconcile o).Within d fun _ ↦ True := by
  unfold reconcile
  rw [reconcileWith_eq_bind]
  have hsignal : (r.unrecorded (.background none) o).Within d fun _ ↦ True := by
    unfold unrecorded
    refine (Scope.Admits.log _).within.bind fun _ _ ↦ ?_
    refine Scope.Admits.clocks.within.bind fun m _ ↦ ?_
    exact (Scope.Admits.log _).within.bind fun _ _ ↦ within_passSignal h m.now
  refine hsignal.bind fun s _ ↦ ?_
  rw [hkey]
  exact Run.within_lift (Act.within_record r.config s)

/-! ## Passes over several objects -/

variable (r) (objects : List Object) (m : Moment) (w : World) (alone : Object → World)

/-- The passes over several objects, each with its object's key beside its outcome. -/
def passes : List (Run (ObjectKey × Outcome)) :=
  objects.map fun o ↦ (o.key, ·) <$> r.reconcile o

/-- The passes as a company, before any of them has started. -/
def starting : Company (ObjectKey × Outcome) := ⟨m, w, (r.passes objects).map Run.member⟩

/-- The answer for an object, with what of the object is found in `after`, is what a pass over it
comes to that goes on alone from the world `before`. -/
structure AnswersAlone (o : Object) (before : World) (answer : ObjectKey × Outcome)
    (after : World) : Prop where
  key : answer.1 = o.key
  ended : ∃ left now, (r.reconcile o).settle m before = some (answer.2, left, now) ∧
    after.store.get? o.key = left.store.get? o.key ∧
    after.failures.count o.key = left.failures.count o.key

/-- The passes do not interfere: each comes to what it comes to alone, from its world `alone`. -/
structure Independent : Prop where
  /-- Whenever interleaved passes have all ended, their answers are those of the passes alone. -/
  interleaved : ∀ c answers, (r.starting objects m w).Interleaving c →
    c.members = answers.map .done →
    List.Forall₂ (fun o answer ↦ r.AnswersAlone m o (alone o) answer c.world) objects answers
  /-- If each pass ends alone, interleaved passes all end, whatever their order. -/
  inevitable : (∀ o ∈ objects, ((r.reconcile o).settle m (alone o)).isSome) →
    (r.starting objects m w).Inevitably Company.IsDone
  /-- The answers of the joint run, too, are those of the passes alone. -/
  joined : ∀ answers after now, (r.reconcileAll objects).settle m w = some (answers, after, now) →
    List.Forall₂ (fun o answer ↦ r.AnswersAlone m o (alone o) answer after) objects answers
  /-- If each pass ends alone, the joint run ends. -/
  settles : (∀ o ∈ objects, ((r.reconcile o).settle m (alone o)).isSome) →
    ((r.reconcileAll objects).settle m w).isSome

/-- What a pass over an object comes to alone. -/
def solo (o : Object) : Solo (ObjectKey × Outcome) :=
  ⟨o.key, (((o.key, ·) <$> r.reconcile o) m (alone o)).result? m⟩

theorem result?_solo (o : Object) :
    (r.solo m alone o).result =
      ((r.reconcile o).settle m (alone o)).map fun (outcome, after, _) ↦
        ((o.key, outcome), after) := by
  unfold solo Progress.result?
  dsimp only
  rw [Run.map_apply, Progress.settle_map, Option.map_map]
  rfl

variable {r objects m w alone} {owner : String → ObjectKey}

/-- Before they start, the passes follow what each of them comes to alone. -/
theorem followsEach_starting (hminds : ∀ o ∈ objects, r.Minds ⟨o.key, owner⟩ o)
    (halone : ∀ o ∈ objects, Scope.Agree ⟨o.key, owner⟩ w (alone o)) :
    (r.starting objects m w).FollowsEach owner (objects.map (r.solo m alone)) := by
  unfold Company.FollowsEach starting passes
  rw [List.map_map, List.forall₂_map_left_iff, List.forall₂_map_right_iff, List.forall₂_same]
  intro o ho
  have hpass : ((o.key, ·) <$> r.reconcile o).Within ⟨o.key, owner⟩ fun _ ↦ True :=
    (within_reconcile (hminds o ho) rfl).map (o.key, ·) fun _ _ ↦ trivial
  exact Scope.Follows.start hpass m (halone o ho)

theorem forall₂_answersAlone {answers : List (ObjectKey × Outcome)} {after : World}
    (h : List.Forall₂ (fun s answer ↦ ∃ v, s.result = some (answer, v) ∧
      Scope.Agree ⟨s.key, owner⟩ after v) (objects.map (r.solo m alone)) answers) :
    List.Forall₂ (fun o answer ↦ r.AnswersAlone m o (alone o) answer after) objects answers := by
  rw [List.forall₂_map_left_iff] at h
  refine h.imp fun o answer ⟨v, hresult, hagree⟩ ↦ ?_
  rw [result?_solo, Option.map_eq_some_iff] at hresult
  obtain ⟨⟨outcome, v', now⟩, hsettle, heq⟩ := hresult
  cases heq
  exact ⟨rfl, v, now, hsettle, hagree.stored, hagree.count⟩

/-- Passes of different keys that mind the scopes of their objects do not interfere. -/
theorem independent_of_minds (owner : String → ObjectKey) (hkeys : (objects.map Object.key).Nodup)
    (hminds : ∀ o ∈ objects, r.Minds ⟨o.key, owner⟩ o)
    (halone : ∀ o ∈ objects, Scope.Agree ⟨o.key, owner⟩ w (alone o)) :
    r.Independent objects m w alone := by
  have hfollows : (r.starting objects m w).FollowsEach owner (objects.map (r.solo m alone)) :=
    followsEach_starting hminds halone
  have hsolos : ((objects.map (r.solo m alone)).map Solo.key).Nodup := by
    rw [List.map_map]
    exact hkeys
  have hinterleaved (c : Company (ObjectKey × Outcome)) (answers : List (ObjectKey × Outcome))
      (hpath : (r.starting objects m w).Interleaving c) (hdone : c.members = answers.map .done) :
      List.Forall₂ (fun o answer ↦ r.AnswersAlone m o (alone o) answer c.world) objects answers :=
    forall₂_answersAlone ((hfollows.interleaving hsolos hpath).ends hdone)
  have hends (h : ∀ o ∈ objects, ((r.reconcile o).settle m (alone o)).isSome) :
      ∀ s ∈ objects.map (r.solo m alone), s.result.isSome := by
    rw [List.forall_mem_map]
    intro o ho
    rw [result?_solo, Option.isSome_map]
    exact h o ho
  refine ⟨hinterleaved, fun h ↦ hfollows.inevitably_isDone hsolos (hends h), ?_, fun h ↦ ?_⟩
  · intro answers after now hsettle
    rcases Company.settle_all (r.passes objects) m w with
      ⟨values, w', later, hvalues, hpath⟩ | ⟨hnone, -⟩
    · cases hsettle.symm.trans hvalues
      exact hinterleaved _ answers hpath rfl
    · exact nomatch hsettle.symm.trans hnone
  · rcases Company.settle_all (r.passes objects) m w with
      ⟨values, w', later, hvalues, -⟩ | ⟨-, c, hpath, hdone, hstuck⟩
    · exact Option.isSome_iff_exists.2 ⟨_, hvalues⟩
    · have hnext := (hfollows.interleaving hsolos hpath).isDone_or_exists_step (hends h)
      exact absurd hnext (not_or.2 ⟨hdone, hstuck⟩)

def leaseNamed (name : String) : Object := ⟨"Lease", { name }, ∅, ""⟩

/-- Sleeps for a second per character of the object's name. -/
def nap : Action where
  name := "nap"
  run _ ctx state := do
    Run.sleep (.ofSeconds state.object.metadata.name.length 0)
    return ⟨.proceed, ctx, state⟩

def readying : StatusUpdate where
  conditions := [{ type := "Ready", status := .affirmed }]

/-- Sleeps, and then sets a condition unless the object is being deleted. -/
def announcement : Pipeline :=
  .sequence "announce"
    [.leaf nap, .ifElse "alive" (.not .isDeleting) (.leaf readying.action) none]

def napping : Reconciler := ⟨announcement.action, .base, .default⟩

/-- Two leases, the second of which sleeps less. -/
def leases : List Object := [leaseNamed "aa", leaseNamed "b"]

/-- A world in which the objects are stored and their last passes failed. -/
def worldOf (objects : List Object) : World where
  store := .ofList objects
  failures := objects.foldl (fun counts o ↦ counts.recordFailure o.key) ∅

def leaseOwner : String → ObjectKey := fun _ ↦ (leaseNamed "aa").key

theorem keepsTo_nap (d : Scope) : nap.KeepsTo d := fun _ _ _ hcovers ↦
  (Scope.Admits.sleep _).andThen fun _ ↦ .pure hcovers

theorem keepsTo_readying (d : Scope) : readying.KeepsTo d where
  wrapper _ := .pure trivial
  onError _ hhook := nomatch hhook
  onSuccess _ hhook := nomatch hhook

theorem keepsTo_announcement (d : Scope) : announcement.action.KeepsTo d := by
  apply Pipeline.keepsTo_action
  · intro a ha
    cases ha with
    | sequence hq part =>
      rw [List.mem_cons, List.mem_singleton] at hq
      obtain rfl | rfl := hq
      · cases part
        exact keepsTo_nap d
      · cases part with
        | case hc part =>
          obtain rfl := List.mem_singleton.1 hc
          cases part
          exact (keepsTo_readying d).action
  · intro name cases default hswitch c hc
    cases hswitch with
    | sequence hq part =>
      rw [List.mem_cons, List.mem_singleton] at hq
      obtain rfl | rfl := hq
      · cases part
      · cases part with
        | self =>
          obtain rfl := List.mem_singleton.1 hc
          exact fun _ _ _ _ _ _ _ ↦ rfl
        | case hc' part =>
          obtain rfl := List.mem_singleton.1 hc'
          cases part

/-- The lease once it has been announced. -/
def announced (o : Object) : Object where
  kind := o.kind
  metadata := { o.metadata with resourceVersion := 1 }
  conditions := .ofList
    [{ type := "Ready", status := .affirmed, lastTransition := some (.read 1) }]
  spec := o.spec

/-- What the passes over both leases come to side by side. -/
def napped : Option (List (ObjectKey × Outcome) × World × Instant) :=
  (napping.reconcileAll leases).settle ⟨.start, .read 1⟩ (worldOf leases)

/-- The object as it is stored, and its failures. -/
def remains (o : Object) (w : World) : Option Object × UInt32 :=
  (w.store.get? o.key, w.failures.count o.key)

/-- The objects that have been written, in order. -/
def written (w : World) : List ObjectKey :=
  w.log.filterMap fun
    | .persisted key _ => some key
    | _ => none

/-- The second lease is written while the first one still sleeps, and each of the two passes leaves
what it leaves alone. -/
theorem independent_of_minds_leases :
    (leases.map Object.key).Nodup ∧
      (∀ o ∈ leases, napping.Minds ⟨o.key, leaseOwner⟩ o) ∧
      (∀ o ∈ leases, Scope.Agree ⟨o.key, leaseOwner⟩ (worldOf leases) (worldOf [o])) ∧
      napping.Independent leases ⟨.start, .read 1⟩ (worldOf leases) (fun o ↦ worldOf [o]) ∧
      napped.map (·.1) = some (leases.map fun o ↦ (o.key, .done)) ∧
      napped.map (fun (_, after, _) ↦ leases.map (remains · after)) =
        some (leases.map fun o ↦ (some (announced o), 0)) ∧
      napped.map (fun (_, after, now) ↦ (written after, now)) =
        some ([(leaseNamed "b").key, (leaseNamed "aa").key], ⟨2000000000⟩) ∧
      ∀ o ∈ leases, remains o (worldOf [o]) = (some o, 1) ∧
        ((napping.reconcile o).settle ⟨.start, .read 1⟩ (worldOf [o])).map
            (fun (outcome, left, _) ↦ (outcome, remains o left)) =
          some (.done, some (announced o), 0) := by
  have hkeys : (leases.map Object.key).Nodup := by decide
  have hminds : ∀ o ∈ leases, napping.Minds ⟨o.key, leaseOwner⟩ o := by
    intro o ho
    refine minds_of_keepsTo (keepsTo_announcement _) fun ctx hctx ↦ .pure ?_
    rintro state ⟨⟩
    rfl
  have hstored : ∀ o ∈ leases,
      (worldOf leases).store.get? o.key = (worldOf [o]).store.get? o.key := by
    decide +kernel
  have hcount : ∀ o ∈ leases,
      (worldOf leases).failures.count o.key = (worldOf [o]).failures.count o.key := by
    decide +kernel
  have halone : ∀ o ∈ leases,
      Scope.Agree ⟨o.key, leaseOwner⟩ (worldOf leases) (worldOf [o]) := fun o ho ↦
    ⟨⟨rfl, rfl⟩, hstored o ho, fun _ _ ↦ rfl, hcount o ho⟩
  exact ⟨hkeys, hminds, halone, independent_of_minds leaseOwner hkeys hminds halone,
    by decide +kernel, by decide +kernel, by decide +kernel, by decide +kernel⟩

end Reconciler

end ControlLoop
