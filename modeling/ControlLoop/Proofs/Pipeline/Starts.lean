import ControlLoop.Proofs.Pipeline.Events
import ControlLoop.Run.Wait

/-!
# Leaves and done contexts

A sequence looks at the context before each of its parts. A switch does not, but its choice takes no
time and changes no context, so the part that it runs finds the context as the switch found it.
Hence a leaf at any depth starts in a context that is not done, whatever the leaves before it have
cancelled, replaced or waited for; only a pipeline without a sequence at its root has to be started
in such a context itself.

What a leaf would do in a done context is therefore never seen: a pipeline whose leaves do something
else there runs in the same way. This says the same of the runs alone, without their events.
-/

namespace ControlLoop

theorem Point.error?_eq_of_quiet_eq {p q : Point} (h : p.quiet = q.quiet) :
    p.error? = q.error? := by
  have hquiet : p.quiet.error? = q.quiet.error? := congrArg error? h
  exact hquiet

/-- The action, but for something else that is done instead if it starts in a done context. -/
def Action.guarded (instead : Action → Option Span → Context → State → Run Reply) (a : Action) :
    Action where
  name := a.name
  run span ctx state := do
    match ← Act.contextError ctx with
    | some _ => instead a span ctx state
    | none => a.run span ctx state

/-- In a context that is not done, what would be done instead is never seen. -/
theorem Action.play_guarded {a : Action} {span : Option Span} {p : Point}
    (instead : Action → Option Span → Context → State → Run Reply) (h : p.error? = none) :
    (a.guarded instead).play span p = a.play span p := by
  have hcheck : (Act.contextError p.ctx p.moment p.world).1 = none := h
  unfold play guarded
  rw [Run.play_lift_bind, hcheck]
  rfl

namespace Pipeline

def isSequence : Pipeline → Bool
  | .sequence _ _ => true
  | _ => false

/-- The point from which a switch runs its part is done exactly if the switch's is. -/
theorem error?_choosing (name : String) (cases : List (Predicate × Pipeline))
    (default : Option Pipeline) (start : Point) :
    (choosing name cases default start).error? = start.error? :=
  Point.error?_eq_of_quiet_eq (Point.quiet_choosing name _ _ start)

/-! ## The starts among the events -/

variable {p : Pipeline} {v : Visit}

theorem error?_eq_none_of_mem_partEvents {name : String} {parts : List Pipeline} {start : Point}
    (hparts : ∀ p ∈ parts, ∀ span start, start.error? = none →
      .visited v ∈ p.events span start → v.start.error? = none)
    (hv : .visited v ∈ partEvents name parts start) : v.start.error? = none := by
  induction parts generalizing start with
  | nil =>
    rw [partEvents_nil] at hv
    exact nomatch hv
  | cons p ps ih =>
    obtain ⟨hp, hps⟩ := List.forall_mem_cons.1 hparts
    cases herror : start.error? with
    | some e =>
      rw [partEvents_cons_of_done herror, List.mem_singleton] at hv
      exact nomatch hv
    | none =>
      rw [partEvents_cons herror, List.mem_append] at hv
      rcases hv with hfirst | hrest
      · exact hp _ (start.log (.running p.action.name)) herror hfirst
      · cases hnext : (p.play (some (.sequence name))
            (start.log (.running p.action.name))).next? with
        | none =>
          rw [hnext] at hrest
          exact nomatch hrest
        | some next =>
          rw [hnext] at hrest
          exact ih hps hrest

/-- Leaves of a pipeline that starts in a context that is not done do so too. -/
theorem error?_eq_none_of_mem_events {span : Option Span} {start : Point}
    (hstart : start.error? = none) (hv : .visited v ∈ p.events span start) :
    v.start.error? = none := by
  induction p generalizing span start with
  | leaf a =>
    rw [events, List.mem_singleton] at hv
    obtain rfl := Event.visited.inj hv
    exact hstart
  | sequence name parts ih =>
    rw [events_sequence] at hv
    exact error?_eq_none_of_mem_partEvents (fun p hp _ _ ↦ ih p hp) hv
  | switch name cases default ihcases ihdefault =>
    have hchosen : (choosing name cases default start).error? = none := by
      rw [error?_choosing, hstart]
    rw [events_switch] at hv
    cases hchoice : choice? start.scene cases default with
    | none =>
      rw [hchoice] at hv
      exact absurd hv List.not_mem_nil
    | some q =>
      rw [hchoice] at hv
      obtain ⟨c, hc, rfl⟩ | hdefault := mem_or_eq_of_choice? hchoice
      · exact ihcases c hc hchosen hv
      · exact ihdefault q hdefault hchosen hv

/-! ## Leaves that do something else -/

mutual

/-- The pipeline with guarded leaves. -/
def guarded (instead : Action → Option Span → Context → State → Run Reply) : Pipeline → Pipeline
  | .leaf a => .leaf (a.guarded instead)
  | .sequence name parts => .sequence name (guardedParts instead parts)
  | .switch name cases default =>
    .switch name (guardedCases instead cases) (guardedDefault instead default)

def guardedParts (instead : Action → Option Span → Context → State → Run Reply) :
    List Pipeline → List Pipeline
  | [] => []
  | p :: ps => guarded instead p :: guardedParts instead ps

def guardedCases (instead : Action → Option Span → Context → State → Run Reply) :
    List (Predicate × Pipeline) → List (Predicate × Pipeline)
  | [] => []
  | c :: cs => guardedCase instead c :: guardedCases instead cs

def guardedCase (instead : Action → Option Span → Context → State → Run Reply) :
    Predicate × Pipeline → Predicate × Pipeline
  | (predicate, p) => (predicate, guarded instead p)

def guardedDefault (instead : Action → Option Span → Context → State → Run Reply) :
    Option Pipeline → Option Pipeline
  | none => none
  | some p => some (guarded instead p)

end

variable (instead : Action → Option Span → Context → State → Run Reply)

theorem name_guarded (p : Pipeline) : (p.guarded instead).action.name = p.action.name := by
  cases p <;> rfl

theorem choice?_guarded (s : Scene) (cases : List (Predicate × Pipeline))
    (default : Option Pipeline) :
    choice? s (guardedCases instead cases) (guardedDefault instead default) =
      (choice? s cases default).map (guarded instead) := by
  induction cases with
  | nil => cases default <;> rfl
  | cons c cs ih =>
    obtain ⟨predicate, p⟩ := c
    simp only [choice?, guardedCases, guardedCase, List.find?_cons] at ih ⊢
    cases (predicate.eval s).1 with
    | true => rfl
    | false => exact ih

/-- A selection with guarded parts goes by the same predicates and finds an action of the same
name. -/
theorem select_guarded (s : Scene) (index : Nat) (cases : List (Predicate × Pipeline)) :
    (Case.select s index (caseActions (guardedCases instead cases))).2 =
        (Case.select s index (caseActions cases)).2 ∧
      (Case.select s index (caseActions (guardedCases instead cases))).1.map
          (fun chosen ↦ (chosen.1, chosen.2.name)) =
        (Case.select s index (caseActions cases)).1.map
          (fun chosen ↦ (chosen.1, chosen.2.name)) := by
  induction cases generalizing index with
  | nil => exact ⟨rfl, rfl⟩
  | cons c cs ih =>
    obtain ⟨predicate, p⟩ := c
    obtain ⟨hnotes, hchosen⟩ := ih (index + 1)
    simp only [guardedCases, guardedCase, caseActions, caseAction, Case.select]
    cases heval : predicate.eval s with
    | mk holds notes =>
      cases holds with
      | true => simp [name_guarded]
      | false => exact ⟨by rw [hnotes], hchosen⟩

theorem choosing_guarded (name : String) (cases : List (Predicate × Pipeline))
    (default : Option Pipeline) (start : Point) :
    choosing name (guardedCases instead cases) (guardedDefault instead default) start =
      choosing name cases default start := by
  unfold choosing Point.choosing
  simp only [Act.choose_eq]
  obtain ⟨hnotes, hchosen⟩ := select_guarded instead ⟨start.ctx, start.state, start.moment.now,
    (start.log (.switchOpened name start.ctx.span)).world.handles⟩ 0 cases
  revert hnotes hchosen
  generalize Case.select _ 0 (caseActions (guardedCases instead cases)) = guardedChoice
  generalize Case.select _ 0 (caseActions cases) = choice
  obtain ⟨chosen, notes⟩ := choice
  obtain ⟨guardedChosen, guardedNotes⟩ := guardedChoice
  rintro rfl hchosen
  cases chosen with
  | none =>
    obtain rfl := Option.map_eq_none_iff.1 hchosen
    rfl
  | some entry =>
    obtain ⟨guardedEntry, rfl, hentry⟩ := Option.map_eq_some_iff.1 hchosen
    obtain ⟨hindex, hname⟩ := Prod.mk.inj hentry
    dsimp only
    rw [hindex, hname]

/-- Guarded parts of a sequence run as the parts do, whatever the context is at the start. -/
theorem playParts_guarded {name : String} {parts : List Pipeline} (start : Point)
    (hparts : ∀ p ∈ parts, ∀ span start, start.error? = none →
      (p.guarded instead).play span start = p.play span start) :
    playParts name (guardedParts instead parts) start = playParts name parts start := by
  induction parts generalizing start with
  | nil => rfl
  | cons p ps ih =>
    obtain ⟨hp, hps⟩ := List.forall_mem_cons.1 hparts
    unfold guardedParts
    cases herror : start.error? with
    | some e =>
      rw [playParts_cons_of_done herror, playParts_cons_of_done herror, name_guarded]
    | none =>
      have hfirst : (p.guarded instead).play (some (.sequence name))
          (start.log (.running p.action.name)) =
            p.play (some (.sequence name)) (start.log (.running p.action.name)) :=
        hp _ (start.log (.running p.action.name)) herror
      rw [playParts_cons herror, playParts_cons herror, name_guarded, hfirst]
      cases (p.play (some (.sequence name)) (start.log (.running p.action.name))).next? with
      | none => rfl
      | some next => exact ih next hps

/-- From a context that is not done a pipeline and the one with guarded leaves come to stand
alike. -/
theorem play_guarded_of_error? (p : Pipeline) (span : Option Span) {start : Point}
    (hstart : start.error? = none) : (p.guarded instead).play span start = p.play span start := by
  induction p generalizing span start with
  | leaf a => exact Action.play_guarded instead hstart
  | sequence name parts ih =>
    unfold guarded
    rw [play_sequence, play_sequence]
    exact playParts_guarded instead _ fun p hp span _ hstart ↦ ih p hp span hstart
  | switch name cases default ihcases ihdefault =>
    have hchosen : (choosing name cases default start).error? = none := by
      rw [error?_choosing, hstart]
    unfold guarded
    rw [play_switch, play_switch, choice?_guarded, choosing_guarded]
    cases hchoice : choice? start.scene cases default with
    | none => rfl
    | some q =>
      obtain ⟨c, hc, rfl⟩ | hdefault := mem_or_eq_of_choice? hchoice
      · exact ihcases c hc _ hchosen
      · exact ihdefault q hdefault _ hchosen

/-- Every leaf starts in a context that is not done, if the root of the pipeline is a sequence or
the pipeline itself starts in such a context; and what its leaves would do in a done context does
not matter to where the pipeline comes to stand. -/
theorem starts_not_done (span : Option Span) {start : Point}
    (hstart : p.isSequence ∨ start.error? = none) :
    (∀ v, .visited v ∈ p.events span start → v.start.error? = none) ∧
      ∀ instead, (p.guarded instead).play span start = p.play span start := by
  rcases hstart with hroot | hstart
  · cases p with
    | leaf a => exact nomatch hroot
    | switch name cases default => exact nomatch hroot
    | sequence name parts =>
      refine ⟨fun v hv ↦ ?_, fun instead ↦ ?_⟩
      · rw [events_sequence] at hv
        exact error?_eq_none_of_mem_partEvents (fun _ _ _ _ ↦ error?_eq_none_of_mem_events) hv
      · unfold guarded
        rw [play_sequence, play_sequence]
        exact playParts_guarded instead _ fun p _ span _ ↦ play_guarded_of_error? instead p span
  · exact ⟨fun v ↦ error?_eq_none_of_mem_events hstart,
      fun instead ↦ play_guarded_of_error? instead p span hstart⟩

/-- Sleeps for 5 s. -/
def slumber : Action where
  name := "slumber"
  run _ ctx state := do
    Run.sleep (.ofMillis 5000)
    return ⟨.proceed, ctx, state⟩

def slumbers : Pipeline :=
  .ifElse "which" (.pure fun _ ↦ true) (.sequence "twice" [.leaf slumber, .leaf slumber]) none

/-- A start with a deadline after 100 ms and a resumption after 5 s. -/
def hurriedStart : Point where
  ctx := (Context.background none).withDeadline ⟨100000000⟩
  state := { object := ⟨"Lease", { name := "a" }, ∅, ""⟩ }
  moment := ⟨.start, .read 1⟩
  world := {}
  coming := [(⟨⟨5000000000⟩, .read 1⟩, {})]

/-- The deadline passes while the first of two leaves sleeps, so the second one does not start. -/
theorem starts_not_done_slumbers :
    (slumbers.isSequence ∨ hurriedStart.error? = none) ∧
      (∀ v, .visited v ∈ slumbers.events none hurriedStart → v.start.error? = none) ∧
      (∀ instead, (slumbers.guarded instead).play none hurriedStart =
        slumbers.play none hurriedStart) ∧
      match slumbers.play none hurriedStart with
      | .finished reply _ _ _ => reply.signal = .propagate .deadlineExceeded
      | .waiting _ _ _ => False := by
  have hstart : slumbers.isSequence ∨ hurriedStart.error? = none := .inr rfl
  obtain ⟨hstarts, hguarded⟩ := starts_not_done none hstart
  have hsignal : Signal.propagate .deadlineExceeded = .propagate .deadlineExceeded := rfl
  exact ⟨hstart, hstarts, hguarded, hsignal⟩

end Pipeline

end ControlLoop
