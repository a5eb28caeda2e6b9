import ControlLoop.Proofs.Pipeline.Confinement
import ControlLoop.Proofs.Reconciler.Ledger
import ControlLoop.Run.Wait
import Mathlib.Logic.Function.Basic

/-!
# A reconciler in service

Any number of passes are started, polled and recorded in any order, several of one object among
them, keys are forgotten in between, and the rest of the world and the clock change as they like. A
pass is a run of `Reconciler.reconcileWith` up to its signal and then, as `reconcileWith_eq_bind`
has it, its recording, which may come later. Recorded as soon as it has its signal, it is a run of
`Reconciler.reconcileWith` as a whole, which `Service.attended_shows_reconcileWith` says. A ledger
is kept of the passes that have been recorded, each under the key that its object had at the start,
and of the keys that have been forgotten. A pass that is started in the place of another one drops
it.

Only the reconciler can reach its failure counts, so what its factory and its action do, and what
else happens in the world, leaves them as they are.
-/

namespace ControlLoop

namespace Reconciler

/-- The factory and the action of the reconciler cannot reach the failure counts. -/
structure Confined (r : Reconciler) : Prop where
  factory : ∀ ctx o, (r.factory ctx o).Keeps World.failures
  action : r.action.Confined

variable {r : Reconciler}

/-- A pass leaves the failure counts alone until it is recorded. -/
theorem Confined.keeps_unrecorded (h : r.Confined) (parent : Context) (o : Object) :
    (r.unrecorded parent o).Keeps World.failures :=
  Run.keeps_iff_moves.2 <| moves_unrecorded (fun _ _ ↦ rfl)
    (fun ctx o ↦ Run.keeps_iff_moves.1 (h.factory ctx o))
    (fun ctx state ↦ Run.keeps_iff_moves.1 (h.action (some .pass) ctx state)) parent o

end Reconciler

/-- A pass up to its signal, under the key that its object had at the start. -/
structure Pass where
  key : ObjectKey
  run : Progress Signal

/-- What happens in the world beside a reconciler. -/
structure Happening where
  apply : World → World
  failures_apply : ∀ w, (apply w).failures = w.failures

inductive Turn (ι : Type) where
  | start (id : ι) (parent : Context) (o : Object)
  | poll (id : ι)
  | record (id : ι)
  | forget (key : ObjectKey)
  | happen (h : Happening)

structure Service (ι : Type) where
  world : World
  passes : ι → Option Pass
  ledger : Ledger

namespace Service

variable {ι : Type} (t : Service ι)

/-- A new reconciler in a world. -/
def opening (w : World) : Service ι := ⟨{ w with failures := ∅ }, fun _ ↦ none, []⟩

def forget (key : ObjectKey) (m : Moment) : Service ι :=
  { t with
    world := (Reconciler.forget key m t.world).2
    ledger := t.ledger ++ [.forgotten key] }

def happen (h : Happening) : Service ι := { t with world := h.apply t.world }

variable [DecidableEq ι] (r : Reconciler) (id : ι) (key : ObjectKey) (m : Moment)

/-- A pass has come as far as the progress says, and has left the world of the progress. -/
def reach (run : Progress Signal) : Service ι :=
  { t with world := run.world, passes := Function.update t.passes id (some ⟨key, run⟩) }

/-- A pass has been recorded with its signal. -/
def settle (s : Signal) : Service ι where
  world := (Act.record r.config key s m t.world).2
  passes := Function.update t.passes id none
  ledger := t.ledger ++ [.ended key s (Act.record r.config key s m t.world).1]

/-- Goes on with a pass that is woken. -/
def poll : Service ι :=
  match t.passes id with
  | some ⟨key, .waiting _ u resume⟩ =>
    if u.ready m.now t.world then t.reach id key (resume m t.world) else t
  | _ => t

/-- Records a pass that has its signal. -/
def record : Service ι :=
  match t.passes id with
  | some ⟨key, .finished s _⟩ => t.settle r id key m s
  | _ => t

/-- A turn at a moment. -/
def step (m : Moment) : Turn ι → Service ι
  | .start id parent o => t.reach id o.key (r.unrecorded parent o m t.world)
  | .poll id => t.poll id m
  | .record id => t.record r id m
  | .forget key => t.forget key m
  | .happen h => t.happen h

def run (turns : List (Moment × Turn ι)) : Service ι :=
  turns.foldl (fun t (m, turn) ↦ t.step r m turn) t

/-- A poll does nothing, or it resumes a pass that was waiting. -/
theorem poll_cases :
    t.poll id m = t ∨
      ∃ key w u resume, t.passes id = some ⟨key, .waiting w u resume⟩ ∧
        t.poll id m = t.reach id key (resume m t.world) := by
  cases hpass : t.passes id with
  | none => exact .inl (by simp [poll, hpass])
  | some pass =>
    obtain ⟨key, progress⟩ := pass
    cases progress with
    | finished s w => exact .inl (by simp [poll, hpass])
    | waiting w u resume =>
      by_cases hready : u.ready m.now t.world
      · exact .inr ⟨key, w, u, resume, rfl, by simp [poll, hpass, hready]⟩
      · exact .inl (by simp [poll, hpass, hready])

/-- A record does nothing, or it settles a pass with its signal. -/
theorem record_cases :
    t.record r id m = t ∨ ∃ key s, t.record r id m = t.settle r id key m s := by
  cases hpass : t.passes id with
  | none => exact .inl (by simp [record, hpass])
  | some pass =>
    obtain ⟨key, progress⟩ := pass
    cases progress with
    | finished s w => exact .inr ⟨key, s, by simp [record, hpass]⟩
    | waiting w u resume => exact .inl (by simp [record, hpass])

end Service

/-- The outcome of the entry is the one that its signal has with the counts after it. -/
def LedgerEntry.IsRight (config : Config) (before : Ledger) : LedgerEntry → Prop
  | .ended key s outcome =>
    outcome = Outcome.ofSignal config ((before.tally.afterPass key s).count key) s
  | .forgotten _ => True

/-- The pass leaves the failure counts alone. -/
def Pass.IsConfined (p : Pass) : Prop := ∃ found, p.run.Keeps World.failures found

namespace Service

variable {ι : Type}

/-- The counts are those of the ledger, no pass in progress changes them, and every entry was right
when it was made. -/
structure Booked (config : Config) (t : Service ι) : Prop where
  failures : t.world.failures = t.ledger.tally
  passes : ∀ id p, t.passes id = some p → p.IsConfined
  entries : ∀ before e, before ++ [e] <+: t.ledger → e.IsRight config before

variable {config : Config} {r : Reconciler} {t : Service ι}

theorem booked_opening (config : Config) (w : World) : (opening w : Service ι).Booked config where
  failures := rfl
  passes _ _ h := nomatch h
  entries before e h := by
    have hnil : before ++ [e] = [] := List.prefix_nil.1 h
    simp at hnil

theorem isRight_concat {l : Ledger} {e : LedgerEntry}
    (h : ∀ before x, before ++ [x] <+: l → x.IsRight config before) (he : e.IsRight config l)
    (before : Ledger) (x : LedgerEntry) (hx : before ++ [x] <+: l ++ [e]) :
    x.IsRight config before := by
  rcases List.prefix_concat_iff.1 hx with hlast | hearlier
  · obtain ⟨rfl, hentry⟩ := List.append_inj' hlast rfl
    obtain rfl := List.singleton_inj.1 hentry
    exact he
  · exact h before x hearlier

theorem Booked.forget (h : t.Booked config) (key : ObjectKey) (m : Moment) :
    (t.forget key m).Booked config where
  failures := by
    calc (t.forget key m).world.failures
        = t.world.failures.clear key := rfl
      _ = t.ledger.tally.clear key := by rw [h.failures]
      _ = (t.forget key m).ledger.tally := (Ledger.tally_concat t.ledger (.forgotten key)).symm
  passes := h.passes
  entries := isRight_concat h.entries trivial

theorem Booked.happen (h : t.Booked config) (e : Happening) : (t.happen e).Booked config :=
  ⟨(e.failures_apply t.world).trans h.failures, h.passes, h.entries⟩

variable [DecidableEq ι]

theorem isConfined_update {passes : ι → Option Pass}
    (h : ∀ id p, passes id = some p → p.IsConfined) (id : ι) {new : Option Pass}
    (hnew : ∀ p, new = some p → p.IsConfined) (other : ι) (p : Pass)
    (hp : Function.update passes id new other = some p) : p.IsConfined := by
  by_cases hid : other = id
  · rw [hid, Function.update_self] at hp
    exact hnew p hp
  · rw [Function.update_of_ne hid] at hp
    exact h other p hp

/-- A step of a pass that leaves the failure counts alone leaves the books in order. -/
theorem Booked.reach (h : t.Booked config) (id : ι) (key : ObjectKey) {run : Progress Signal}
    (hrun : run.Keeps World.failures t.world.failures) : (t.reach id key run).Booked config where
  failures := hrun.part_world.trans h.failures
  passes := by
    apply isConfined_update h.passes
    intro p hp
    cases hp
    exact ⟨t.world.failures, hrun⟩
  entries := h.entries

/-- The recording of a pass makes an entry that is right. -/
theorem Booked.settle (h : t.Booked r.config) (id : ι) (key : ObjectKey) (m : Moment) (s : Signal) :
    (t.settle r id key m s).Booked r.config where
  failures := by
    calc (t.settle r id key m s).world.failures
        = t.world.failures.afterPass key s := Act.failures_record r.config key s m t.world
      _ = t.ledger.tally.afterPass key s := by rw [h.failures]
      _ = (t.settle r id key m s).ledger.tally :=
        (Ledger.tally_concat t.ledger (.ended key s _)).symm
  passes := isConfined_update h.passes id fun _ hp ↦ nomatch hp
  entries := by
    apply isRight_concat h.entries
    unfold LedgerEntry.IsRight
    rw [Act.record_fst, h.failures]

theorem Booked.poll (h : t.Booked config) (id : ι) (m : Moment) : (t.poll id m).Booked config := by
  rcases t.poll_cases id m with hidle | ⟨key, w, u, resume, hpass, hpoll⟩
  · rw [hidle]
    exact h
  · obtain ⟨found, -, hresume⟩ := h.passes id _ hpass
    rw [hpoll]
    exact h.reach id key (hresume m t.world)

theorem Booked.record (h : t.Booked r.config) (id : ι) (m : Moment) :
    (t.record r id m).Booked r.config := by
  rcases t.record_cases r id m with hidle | ⟨key, s, hrecord⟩
  · rw [hidle]
    exact h
  · rw [hrecord]
    exact h.settle id key m s

/-- Every turn leaves the books in order. -/
theorem Booked.step (hr : r.Confined) (h : t.Booked r.config) (m : Moment) (turn : Turn ι) :
    (t.step r m turn).Booked r.config := by
  cases turn with
  | start id parent o => exact h.reach id o.key (hr.keeps_unrecorded parent o m t.world)
  | poll id => exact h.poll id m
  | record id => exact h.record id m
  | forget key => exact h.forget key m
  | happen e => exact h.happen e

/-- All turns one after the other leave the books in order. -/
theorem Booked.run (hr : r.Confined) (h : t.Booked r.config) (turns : List (Moment × Turn ι)) :
    (t.run r turns).Booked r.config := by
  induction turns generalizing t with
  | nil => exact h
  | cons turn turns ih => exact ih (h.step hr turn.1 turn.2)

end Service

/-- An outcome fits a signal after which its key has the given streak: a failure carries the error
of the signal and the delay for the streak, and after all else there is no streak. -/
def Outcome.Fits (backoff : Backoff) (s : Signal) (streak : Nat) : Outcome → Prop
  | .failed e retryAfter =>
    s = .propagate e ∧
      ∃ failures : UInt32, failures.toNat = min streak (UInt32.size - 1) ∧
        retryAfter = backoff.delayFor failures
  | .done | .requeue _ => streak = 0

namespace Service

variable {ι : Type} {r : Reconciler} {t : Service ι}

/-- The accounts of a reconciler: the counts are the streaks of the ledger, the failing objects are
those with a count, in ascending order, and every outcome fits the ledger up to its entry. -/
structure Accounted (r : Reconciler) (t : Service ι) : Prop where
  count : ∀ key,
    (t.world.failures.count key).toNat = min (t.ledger.streak key) (UInt32.size - 1)
  ascending : t.world.failures.failing.Pairwise fun a b ↦ compare a b = .lt
  mem_failing : ∀ key, key ∈ t.world.failures.failing ↔ t.world.failures.count key ≠ 0
  outcome : ∀ before key s outcome, before ++ [.ended key s outcome] <+: t.ledger →
    outcome.Fits r.config.backoff s (Ledger.streak key (before ++ [.ended key s outcome]))

/-- An entry that is right has the delay for the streak that ends with it. -/
theorem fits_of_isRight {config : Config} {before : Ledger} {key : ObjectKey} {s : Signal}
    {outcome : Outcome} (h : (LedgerEntry.ended key s outcome).IsRight config before) :
    outcome.Fits config.backoff s (Ledger.streak key (before ++ [.ended key s outcome])) := by
  have hcount := Ledger.toNat_count_tally (before ++ [.ended key s outcome]) key
  rw [Ledger.tally_concat] at hcount
  unfold LedgerEntry.IsRight at h
  cases s with
  | propagate e =>
    have hfailed : outcome = .failed e (config.backoff.delayFor
        ((before.tally.afterPass key (.propagate e)).count key)) := h
    rw [hfailed] at hcount ⊢
    exact ⟨rfl, _, hcount, rfl⟩
  | proceed | forget | requeue after =>
    cases h
    exact Ledger.streak_concat_of_not_isFailure before rfl fun hfailed ↦ nomatch hfailed

/-- The accounts of a reconciler are in order whatever happens while it is in service. -/
theorem accounted_run [DecidableEq ι] (hr : r.Confined) (w : World)
    (turns : List (Moment × Turn ι)) : ((opening w).run r turns).Accounted r := by
  have h : ((opening w).run r turns).Booked r.config := (booked_opening r.config w).run hr turns
  refine ⟨fun key ↦ ?_, FailureCounts.pairwise_failing _, fun key ↦ ?_,
    fun before key s outcome hentry ↦ ?_⟩
  · rw [h.failures]
    exact Ledger.toNat_count_tally _ key
  · rw [h.failures]
    exact (Ledger.positive_tally _).mem_failing_iff
  · exact fits_of_isRight (h.entries before _ hentry)

/-- Waits for 100 ms, renames the object and fails. -/
def relabeling : Action where
  name := "relabel"
  run _ ctx state := do
    Run.sleep (.ofMillis 100)
    let o := { state.object with metadata := { state.object.metadata with name := "b" } }
    return ⟨.propagate .cancelled, ctx, { state with object := o }⟩

theorem confined_relabeling : (Pipeline.sequence "pass" [.leaf relabeling]).action.Confined := by
  have hleaf : relabeling.Confined := by
    intro _ ctx state
    refine Run.Keeps.bind (fun m w ↦ ?_) fun _ ↦ Run.keeps_pure _
    exact Run.keeps_untilTick _ m w
  apply Pipeline.confined_action
  intro a part
  cases part with
  | sequence hmem hpart =>
    obtain rfl := List.mem_singleton.1 hmem
    cases hpart
    exact hleaf

/-- Two passes over one object side by side, recorded in the other order. -/
theorem accounted_run_relabeling :
    let r : Reconciler := ⟨(Pipeline.sequence "pass" [.leaf relabeling]).action,
      fun _ o ↦ pure (.ok { object := o }), .default⟩
    let o : Object := ⟨"Lease", { name := "a" }, ∅, ""⟩
    let early : Moment := ⟨.start, .read 1⟩
    let late : Moment := ⟨⟨100000000⟩, .read 1⟩
    let turns : List (Moment × Turn Bool) :=
      [(early, .start false (.background none) o), (early, .start true (.background none) o),
        (late, .poll false), (late, .poll true), (late, .record true), (late, .record false)]
    r.Confined ∧ ((opening {}).run r turns).Accounted r ∧
      ((opening {}).run r turns).world.failures.count o.key = 2 := by
  intro r o early late turns
  have hr : r.Confined := ⟨fun _ _ ↦ Run.keeps_pure _, confined_relabeling⟩
  exact ⟨hr, accounted_run hr {} turns, by decide +kernel⟩

end Service

end ControlLoop
