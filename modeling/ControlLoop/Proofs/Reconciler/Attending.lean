import ControlLoop.Proofs.Reconciler.Service
import ControlLoop.Proofs.Run.Relating

/-!
# Attended passes

A pass in service is attended if it is recorded as soon as it has its signal. Whatever others do in
service between its polls, among them the passes over other objects and over its own, the attended
pass is a run of `Reconciler.reconcileWith` under the schedule of its polls: it waits for the same,
and when it is over it has left the same world and its ledger entry has the same outcome. The
schedule may have any moments, and any worlds but for the failure counts, which nothing beside the
reconciler can reach.
-/

namespace ControlLoop

/-- The run found in a world in which others may have been since it was last polled. -/
def Progress.foundIn {α : Type} (w : World) : Progress α → Progress α
  | .finished a _ => .finished a w
  | .waiting _ u resume => .waiting w u resume

theorem Progress.foundIn_world {α : Type} (p : Progress α) : p.foundIn p.world = p := by
  cases p <;> rfl

/-- The turn is not one of the pass. -/
def Turn.Spares {ι : Type} (id : ι) : Turn ι → Prop
  | .start other _ _ | .poll other | .record other => other ≠ id
  | .forget _ | .happen _ => True

/-- The turns of others, and then the moment at which a pass is polled. -/
structure Round (ι : Type) where
  others : List (Moment × Turn ι)
  moment : Moment

namespace Round

variable {ι : Type} (id : ι)

def Spares (v : Round ι) : Prop := ∀ turn ∈ v.others, turn.2.Spares id

/-- The turns of others, the poll and the recording, which leaves a pass that still waits. -/
def turns (v : Round ι) : List (Moment × Turn ι) :=
  v.others ++ [(v.moment, .poll id), (v.moment, .record id)]

/-- A round in which the world changes to another one but for its failure counts. -/
def ofPoll (poll : Moment × World) : Round ι :=
  ⟨[(poll.1, .happen ⟨fun w ↦ { poll.2 with failures := w.failures }, fun _ ↦ rfl⟩)], poll.1⟩

theorem spares_ofPoll (poll : Moment × World) : (ofPoll poll).Spares id :=
  List.forall_mem_singleton.2 trivial

end Round

namespace Service

variable {ι : Type} [DecidableEq ι] (r : Reconciler) (id : ι) {t : Service ι}

/-- The schedule under which a pass is polled in the rounds, in the worlds that others have left. -/
def schedule (t : Service ι) : List (Round ι) → Schedule
  | [] => []
  | v :: vs => (v.moment, (t.run r v.others).world) :: schedule (t.run r (v.turns id)) vs

/-- The service stands as a pass does that is polled by itself: it has been recorded with its
outcome while there are rounds left, or it waits when they are over. -/
def Shows (key : ObjectKey) (late : List (Round ι)) (t : Service ι) : Standing Outcome → Prop
  | .finished outcome _ after rest =>
    t.world = after ∧ t.passes id = none ∧ rest = t.schedule r id late ∧
      ∃ s, t.ledger.getLast? = some (.ended key s outcome)
  | .waiting _ w u =>
    t.world = w ∧ late = [] ∧ ∃ v resume, t.passes id = some ⟨key, .waiting v u resume⟩

variable {r id} {key : ObjectKey} {m : Moment}

theorem run_append (turns more : List (Moment × Turn ι)) :
    t.run r (turns ++ more) = (t.run r turns).run r more :=
  List.foldl_append

/-- In its round a pass is polled after the turns of the others and recorded at once. -/
theorem run_turns (v : Round ι) :
    t.run r (v.turns id) = (((t.run r v.others).poll id v.moment).record r id v.moment) :=
  run_append v.others _

/-! ## The turns of others -/

theorem passes_poll_of_ne {other : ι} (h : other ≠ id) :
    (t.poll other m).passes id = t.passes id := by
  rcases t.poll_cases other m with hidle | ⟨key, w, u, resume, -, hpoll⟩
  · rw [hidle]
  · rw [hpoll]
    exact Function.update_of_ne h.symm _ _

theorem passes_record_of_ne {other : ι} (h : other ≠ id) :
    (t.record r other m).passes id = t.passes id := by
  rcases t.record_cases r other m with hidle | ⟨key, s, hrecord⟩
  · rw [hidle]
  · rw [hrecord]
    exact Function.update_of_ne h.symm _ _

/-- A turn of another leaves the pass where it is. -/
theorem passes_step_of_spares {turn : Turn ι} (h : turn.Spares id) :
    (t.step r m turn).passes id = t.passes id := by
  cases turn with
  | start other parent o => exact Function.update_of_ne h.symm _ _
  | poll other => exact passes_poll_of_ne h
  | record other => exact passes_record_of_ne h
  | forget key => rfl
  | happen e => rfl

theorem passes_run_of_spares {turns : List (Moment × Turn ι)}
    (h : ∀ turn ∈ turns, turn.2.Spares id) : (t.run r turns).passes id = t.passes id := by
  induction turns generalizing t with
  | nil => rfl
  | cons turn turns ih =>
    obtain ⟨hturn, hturns⟩ := List.forall_mem_cons.1 h
    exact (ih hturns).trans (passes_step_of_spares hturn)

/-! ## The turns of the pass -/

/-- A poll that finds the pass woken resumes it in the world that the others have left. -/
theorem poll_of_ready {w : World} {u : Wake} {resume : Moment → World → Progress Signal}
    (hpass : t.passes id = some ⟨key, .waiting w u resume⟩) (h : u.ready m.now t.world) :
    t.poll id m = t.reach id key (resume m t.world) := by
  unfold poll
  rw [hpass]
  exact if_pos h

/-- A poll that does not find the pass woken does nothing. -/
theorem poll_of_not_ready {w : World} {u : Wake} {resume : Moment → World → Progress Signal}
    (hpass : t.passes id = some ⟨key, .waiting w u resume⟩) (h : ¬ u.ready m.now t.world) :
    t.poll id m = t := by
  unfold poll
  rw [hpass]
  exact if_neg h

theorem record_of_finished {w : World} {s : Signal}
    (hpass : t.passes id = some ⟨key, .finished s w⟩) :
    t.record r id m = t.settle r id key m s := by
  unfold record
  rw [hpass]

theorem record_of_waiting {w : World} {u : Wake} {resume : Moment → World → Progress Signal}
    (hpass : t.passes id = some ⟨key, .waiting w u resume⟩) : t.record r id m = t := by
  unfold record
  rw [hpass]

/-- A pass that has its signal is recorded as `reconcileWith` would record it. -/
theorem shows_of_finished {w : World} {s : Signal}
    (hpass : t.passes id = some ⟨key, .finished s w⟩) (m : Moment) (late : List (Round ι)) :
    Shows r id key late (t.record r id m)
      (.finished (Act.record r.config key s m t.world).1 m (Act.record r.config key s m t.world).2
        ((t.record r id m).schedule r id late)) := by
  rw [record_of_finished hpass]
  exact ⟨rfl, Function.update_self .., rfl, s, List.getLast?_concat⟩

/-- From any of its polls on, a pass that is attended goes on as it does when it is polled by itself
and then recorded. -/
theorem exists_shows {p : Progress Signal} (hpass : t.passes id = some ⟨key, p⟩) (m : Moment)
    (rounds : List (Round ι)) (hspares : ∀ v ∈ rounds, v.Spares id) :
    let recorded := t.record r id m
    ∃ early late, rounds = early ++ late ∧
      Shows r id key late (recorded.run r (early.flatMap (Round.turns id)))
        (((p.foundIn t.world).polled m (recorded.schedule r id rounds)).andThen fun s m' w' rest ↦
          .finished (Act.record r.config key s m' w').1 m' (Act.record r.config key s m' w').2
            rest) := by
  intro recorded
  induction rounds generalizing t p m with
  | nil =>
    cases p with
    | finished s w => exact ⟨[], [], rfl, shows_of_finished hpass m []⟩
    | waiting w u resume =>
      have hrecorded : recorded = t := record_of_waiting hpass
      rw [hrecorded]
      exact ⟨[], [], rfl, rfl, rfl, w, resume, hpass⟩
  | cons round rounds ih =>
    cases p with
    | finished s w =>
      refine ⟨[], round :: rounds, rfl, ?_⟩
      exact shows_of_finished hpass m (round :: rounds)
    | waiting w u resume =>
      obtain ⟨hround, hrounds⟩ := List.forall_mem_cons.1 hspares
      have hrecorded : recorded = t := record_of_waiting hpass
      let found := t.run r round.others
      have hfound : found.passes id = some ⟨key, .waiting w u resume⟩ :=
        (passes_run_of_spares hround).trans hpass
      rw [hrecorded]
      by_cases hready : u.ready round.moment.now found.world
      · let polled := found.reach id key (resume round.moment found.world)
        have hpolled : polled.passes id = some ⟨key, resume round.moment found.world⟩ :=
          Function.update_self ..
        have hattended : t.run r (round.turns id) = polled.record r id round.moment := by
          rw [run_turns, poll_of_ready hfound hready]
        have hworld : (resume round.moment found.world).foundIn polled.world =
            resume round.moment found.world := Progress.foundIn_world _
        obtain ⟨early, late, rfl, hshows⟩ := ih hpolled round.moment hrounds
        refine ⟨round :: early, late, rfl, ?_⟩
        rw [List.flatMap_cons, run_append, schedule, hattended, Progress.foundIn,
          Progress.polled_cons_of_ready hready, ← hworld]
        exact hshows
      · have hattended : t.run r (round.turns id) = found.record r id round.moment := by
          rw [run_turns, poll_of_not_ready hfound hready]
        obtain ⟨early, late, rfl, hshows⟩ := ih hfound round.moment hrounds
        refine ⟨round :: early, late, rfl, ?_⟩
        rw [List.flatMap_cons, run_append, schedule, hattended, Progress.foundIn,
          Progress.polled_cons_of_not_ready hready]
        exact hshows

/-- A pass that is started in service, and attended, is a run of `reconcileWith`. -/
theorem attended_shows_reconcileWith (t : Service ι) (parent : Context) (o : Object) (m : Moment)
    (rounds : List (Round ι)) (hspares : ∀ v ∈ rounds, v.Spares id) :
    let begun := t.run r [(m, .start id parent o), (m, .record id)]
    ∃ early late, rounds = early ++ late ∧
      Shows r id o.key late (begun.run r (early.flatMap (Round.turns id)))
        ((r.reconcileWith parent o).polled m t.world (begun.schedule r id rounds)) := by
  intro begun
  let started := t.reach id o.key (r.unrecorded parent o m t.world)
  have hpass : started.passes id = some ⟨o.key, r.unrecorded parent o m t.world⟩ :=
    Function.update_self ..
  have hworld : (r.unrecorded parent o m t.world).foundIn started.world =
      r.unrecorded parent o m t.world := Progress.foundIn_world _
  have hshows := exists_shows (r := r) hpass m rounds hspares
  rw [hworld] at hshows
  rw [Reconciler.polled_reconcileWith]
  exact hshows

/-! ## Arbitrary schedules -/

/-- Every schedule, but for the failure counts in its worlds, is that of rounds in which only the
world changes. -/
theorem exists_rounds_related (r : Reconciler) (id : ι) (t : Service ι) (polls : Schedule) :
    ∃ rounds, (∀ v ∈ rounds, v.Spares id) ∧
      Schedule.Related (fun w w' ↦ w' = { w with failures := w'.failures }) polls
        (t.schedule r id rounds) := by
  induction polls generalizing t with
  | nil => exact ⟨[], List.forall_mem_nil _, .nil⟩
  | cons poll polls ih =>
    obtain ⟨rounds, hspares, hrelated⟩ := ih (t.run r ((Round.ofPoll poll).turns id))
    exact ⟨.ofPoll poll :: rounds, List.forall_mem_cons.2 ⟨Round.spares_ofPoll id poll, hspares⟩,
      .cons ⟨rfl, rfl⟩ hrelated⟩

end Service

end ControlLoop
