import ControlLoop.Proofs.Pipeline.Events
import ControlLoop.Proofs.Run.Moving

/-!
# What composers add of their own

Composers look at the context and at what predicates can see, leave notes and log. All else is done
by what they run. So if notes and entries move the world along a preorder, then a pipeline does if
its leaves do.
-/

namespace ControlLoop

/-- The act does nothing to the world but add to the trail and to the log. -/
def Act.Reports {α : Type} (act : Act α) : Prop := ∀ m w, ∃ notes entries,
  (act m w).2 = { w with trail := w.trail ++ notes, log := w.log ++ entries }

theorem Act.reports_log (e : LogEntry) : (log e).Reports := fun _ w ↦
  ⟨[], [e], by rw [List.append_nil]; rfl⟩

theorem Act.reports_contextError (ctx : Context) : (contextError ctx).Reports := fun _ w ↦
  ⟨[], [], by rw [List.append_nil, List.append_nil]; rfl⟩

/-- The choice of a switch changes nothing but the trail and the log. -/
theorem Act.reports_choose (cases : List Case) (default : Option Action) (ctx : Context)
    (state : State) : (choose cases default ctx state).Reports := by
  intro m w
  rw [choose_eq]
  dsimp only
  cases (Case.select ⟨ctx, state, m.now, w.handles⟩ 0 cases).1 with
  | none => exact ⟨_, [_], rfl⟩
  | some chosen => exact ⟨_, [_], rfl⟩

/-- What a switch chooses is decided by the scene in which it chooses. -/
theorem Act.choose_eq_choice? (cases : List Case) (default : Option Action) (ctx : Context)
    (state : State) (m : Moment) (w : World) :
    (choose cases default ctx state m w).1 =
      Case.choice? ⟨ctx, state, m.now, w.handles⟩ cases default := by
  rw [choose_eq, ← Case.select_eq_choice? _ 0]
  dsimp only
  cases (Case.select ⟨ctx, state, m.now, w.handles⟩ 0 cases).1 <;> rfl

/-- What a switch runs is the action of a case or the default. -/
theorem Case.mem_or_eq_of_choice? {s : Scene} {cases : List Case} {default : Option Action}
    {a : Action} (h : choice? s cases default = some a) :
    (∃ c ∈ cases, c.action = a) ∨ default = some a := by
  unfold choice? at h
  split at h
  · next c hc => exact .inl ⟨c, List.mem_of_find?_eq_some hc, Option.some.inj h⟩
  · exact .inr h

namespace Action

variable {R : World → World → Prop} [IsPreorder World R]
  (hreport : ∀ (w : World) notes entries,
    R w { w with trail := w.trail ++ notes, log := w.log ++ entries })
include hreport

/-- A run that starts with a report moves the world if what follows does. -/
theorem moves_report_bind {α β : Type} {act : Act α} {f : α → Run β} (hact : act.Reports)
    (hf : ∀ m w, (f (act m w).1).Moves R) : ((liftM act : Run α) >>= f).Moves R := by
  refine Run.moves_lift_bind (fun m w ↦ ?_) hf
  obtain ⟨notes, entries, hworld⟩ := hact m w
  rw [hworld]
  exact hreport w notes entries

theorem moves_log_bind {β : Type} (e : LogEntry) {f : Unit → Run β} (hf : (f ()).Moves R) :
    ((liftM (Act.log e) : Run Unit) >>= f).Moves R :=
  moves_report_bind hreport (Act.reports_log e) fun _ _ ↦ hf

/-- Actions run in order move the world if each of them does. -/
theorem moves_runAll {actions : List Action}
    (h : ∀ a ∈ actions, ∀ span ctx state, (a.run span ctx state).Moves R)
    (span : Option Span) (ctx : Context) (state : State) :
    (runAll span actions ctx state).Moves R := by
  induction actions generalizing ctx state with
  | nil => exact Run.moves_pure _
  | cons action rest ih =>
    obtain ⟨haction, hrest⟩ := List.forall_mem_cons.1 h
    unfold runAll
    refine moves_report_bind hreport (Act.reports_contextError ctx) fun m w ↦ ?_
    cases (Act.contextError ctx m w).1 with
    | some e => exact moves_log_bind hreport _ (Run.moves_pure _)
    | none =>
      refine moves_log_bind hreport _ ((haction span ctx state).bind fun reply ↦ ?_)
      by_cases hterminal : reply.signal.isTerminal
      · rw [if_pos hterminal]
        exact moves_log_bind hreport _ (Run.moves_pure _)
      · rw [if_neg hterminal]
        exact ih hrest reply.ctx reply.state

/-- A sequence moves the world if its parts do. -/
theorem moves_sequence {name : String} {actions : List Action}
    (h : ∀ a ∈ actions, ∀ span ctx state, (a.run span ctx state).Moves R)
    (span : Option Span) (ctx : Context) (state : State) :
    ((sequence name actions).run span ctx state).Moves R :=
  moves_log_bind hreport _ (moves_runAll hreport h (some (.sequence name)) ctx state)

/-- A switch moves the world if all that it can choose does. -/
theorem moves_switch {name : String} {cases : List Case} {default : Option Action}
    (hcases : ∀ c ∈ cases, ∀ span ctx state, (c.action.run span ctx state).Moves R)
    (hdefault : ∀ a, default = some a → ∀ span ctx state, (a.run span ctx state).Moves R)
    (span : Option Span) (ctx : Context) (state : State) :
    ((switch name cases default).run span ctx state).Moves R := by
  refine moves_log_bind hreport _
    (moves_report_bind hreport (Act.reports_choose cases default ctx state) fun m w ↦ ?_)
  rw [Act.choose_eq_choice?]
  cases hchoice : Case.choice? ⟨ctx, state, m.now, w.handles⟩ cases default with
  | none => exact Run.moves_pure _
  | some a =>
    obtain ⟨c, hc, rfl⟩ | hdef := Case.mem_or_eq_of_choice? hchoice
    · exact hcases c hc (some (.switch name)) ctx state
    · exact hdefault a hdef (some (.switch name)) ctx state

end Action

namespace Pipeline

theorem partActions_eq_map (parts : List Pipeline) : partActions parts = parts.map action := by
  induction parts with
  | nil => rfl
  | cons p ps ih =>
    rw [partActions, ih]
    rfl

theorem caseActions_eq_map (cases : List (Predicate × Pipeline)) :
    caseActions cases = cases.map caseAction := by
  induction cases with
  | nil => rfl
  | cons c cs ih =>
    rw [caseActions, ih]
    rfl

/-- A pipeline moves the world along a preorder if its leaves do. -/
theorem moves_action {R : World → World → Prop} [IsPreorder World R]
    (hreport : ∀ (w : World) notes entries,
      R w { w with trail := w.trail ++ notes, log := w.log ++ entries })
    {p : Pipeline}
    (h : ∀ a, Part (.leaf a) p → ∀ span ctx state, (a.run span ctx state).Moves R) :
    ∀ span ctx state, (p.action.run span ctx state).Moves R := by
  induction p with
  | leaf a => exact h a .self
  | sequence name parts ih =>
    unfold action
    rw [partActions_eq_map]
    apply Action.moves_sequence hreport
    intro a ha
    obtain ⟨q, hq, rfl⟩ := List.mem_map.1 ha
    exact ih q hq fun a part ↦ h a (.sequence hq part)
  | switch name cases default ihCases ihDefault =>
    unfold action
    rw [caseActions_eq_map]
    apply Action.moves_switch hreport
    · intro c hc
      obtain ⟨⟨predicate, q⟩, hq, rfl⟩ := List.mem_map.1 hc
      exact ihCases (predicate, q) hq fun a part ↦ h a (.case hq part)
    · intro a ha
      cases default with
      | none => exact nomatch ha
      | some q =>
        cases ha
        exact ihDefault q rfl fun a part ↦ h a (.default part)

end Pipeline

end ControlLoop
