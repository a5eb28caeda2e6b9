import ControlLoop.Proofs.Error.Contexts
import ControlLoop.Proofs.Pipeline.Composition
import ControlLoop.Proofs.Run.Keeping
import ControlLoop.Proofs.Run.Relating
import ControlLoop.Proofs.StatusUpdate.Application

/-!
# Actions that are alike

Two actions are alike if their runs on the same context and state cannot be told apart by more than
the contexts of a propagated error, the trail and the log. Composers only look at whether a signal
is terminal, so composers of actions that are alike are alike.
-/

namespace ControlLoop

/-- The worlds differ at most by what can only be read afterwards. -/
abbrev World.QuietlySame : World → World → Prop := World.Same World.quiet

namespace World.QuietlySame

variable {w w' : World}

theorem quiet_eq (h : w.QuietlySame w') : w.quiet = w'.quiet := Eq.symm h

theorem handles_eq (h : w.QuietlySame w') : w.handles = w'.handles := by
  change w.quiet.handles = w'.quiet.handles
  rw [h.quiet_eq]

theorem store_eq (h : w.QuietlySame w') : w.store = w'.store := by
  change w.quiet.store = w'.quiet.store
  rw [h.quiet_eq]

theorem failures_eq (h : w.QuietlySame w') : w.failures = w'.failures := by
  change w.quiet.failures = w'.quiet.failures
  rw [h.quiet_eq]

end World.QuietlySame

namespace Signal

/-- The signal with the root of its error. -/
def unwrapped : Signal → Signal
  | .propagate e => .propagate e.rootCause
  | s => s

/-- The signals differ at most by contexts around an error. -/
def Akin (s s' : Signal) : Prop := s.unwrapped = s'.unwrapped

theorem isTerminal_unwrapped (s : Signal) : s.unwrapped.isTerminal = s.isTerminal := by
  cases s <;> rfl

/-- Contexts around an error do not decide whether a signal is terminal. -/
theorem Akin.isTerminal_eq {s s' : Signal} (h : s.Akin s') : s.isTerminal = s'.isTerminal := by
  rw [← isTerminal_unwrapped s, h, isTerminal_unwrapped]

theorem akin_propagate {e e' : Error} (h : e.Akin e') : (propagate e).Akin (propagate e') :=
  congrArg propagate h

end Signal

structure Reply.Akin (r r' : Reply) : Prop where
  signal : r.signal.Akin r'.signal
  ctx : r.ctx = r'.ctx
  state : r.state = r'.state

namespace Act

variable {α β : Type} {V : α → β → Prop} {act : Act α} {act' : Act β}

/-- Reporting is nothing that worlds could differ by. -/
theorem related_of_reports (h : act.Reports) (h' : act'.Reports)
    (hvalue : ∀ m w w', w.QuietlySame w' → V (act m w).1 (act' m w').1) :
    act.Related World.QuietlySame V act' := by
  intro m w w' hw
  obtain ⟨notes, entries, hworld⟩ := h m w
  obtain ⟨notes', entries', hworld'⟩ := h' m w'
  refine ⟨hvalue m w w' hw, ?_⟩
  rw [hworld, hworld']
  exact hw

theorem related_log (e e' : LogEntry) :
    (log e).Related World.QuietlySame Eq (log e') :=
  related_of_reports (reports_log e) (reports_log e') fun _ _ _ _ ↦ rfl

/-- Whether a context is done is seen from what worlds do not differ by. -/
theorem related_contextError (ctx : Context) :
    (contextError ctx).Related World.QuietlySame Eq (contextError ctx) := by
  refine related_of_reports (reports_contextError ctx) (reports_contextError ctx) ?_
  intro m w w' hw
  change ctx.error? m.now w.handles = ctx.error? m.now w'.handles
  rw [hw.handles_eq]

/-- A write has the same answer in worlds that differ by their trail and log, and leaves such
worlds. -/
theorem related_persist (o : Object) :
    (persist o).Related World.QuietlySame Eq (persist o) := by
  intro m w w' hw
  rw [persist_eq, persist_eq, hw.store_eq]
  refine ⟨rfl, ?_⟩
  change (w'.afterWrite o).quiet = (w.afterWrite o).quiet
  simp only [World.quiet, World.afterWrite, hw.handles_eq, hw.store_eq, hw.failures_eq]

end Act

/-- The actions run alike on every context and state. -/
def Action.Alike (a a' : Action) : Prop := ∀ span ctx state,
  (a.run span ctx state).Related World.QuietlySame Reply.Akin (a'.run span ctx state)

namespace Action

/-- Lists of actions that are alike, one by one, are run alike. -/
theorem related_runAll {actions actions' : List Action} (h : List.Forall₂ Alike actions actions')
    (span : Option Span) (ctx : Context) (state : State) :
    (runAll span actions ctx state).Related World.QuietlySame Reply.Akin
      (runAll span actions' ctx state) := by
  induction h generalizing ctx state with
  | nil => exact Run.related_pure ⟨rfl, rfl, rfl⟩
  | cons haction _ ih =>
    unfold runAll
    refine (Run.related_lift (Act.related_contextError ctx)).bind fun done done' hdone ↦ ?_
    subst hdone
    cases done with
    | some e =>
      exact (Run.related_lift (Act.related_log _ _)).bind fun _ _ _ ↦
        Run.related_pure ⟨rfl, rfl, rfl⟩
    | none =>
      refine (Run.related_lift (Act.related_log _ _)).bind fun _ _ _ ↦
        (haction span ctx state).bind fun reply reply' hreply ↦ ?_
      -- The contexts of an error do not decide whether the next action starts.
      rw [hreply.signal.isTerminal_eq, hreply.ctx, hreply.state]
      by_cases hterminal : reply'.signal.isTerminal
      · rw [if_pos hterminal, if_pos hterminal]
        exact (Run.related_lift (Act.related_log _ _)).bind fun _ _ _ ↦ Run.related_pure hreply
      · rw [if_neg hterminal, if_neg hterminal]
        exact ih reply'.ctx reply'.state

/-- A sequence is as its actions are. -/
theorem alike_sequence (name : String) {actions actions' : List Action}
    (h : List.Forall₂ Alike actions actions') :
    (sequence name actions).Alike (sequence name actions') := fun _ ctx state ↦
  (Run.related_lift (Act.related_log _ _)).bind fun _ _ _ ↦
    related_runAll h (some (.sequence name)) ctx state

end Action

/-- The cases run actions that are alike under the same predicate. -/
def Case.Alike (c c' : Case) : Prop := c.predicate = c'.predicate ∧ c.action.Alike c'.action

/-- Cases that are alike choose alike, since they have the same predicates. -/
theorem Case.rel_choice? {cases cases' : List Case} (hcases : List.Forall₂ Case.Alike cases cases')
    {default default' : Option Action} (hdefault : Option.Rel Action.Alike default default')
    (s : Scene) :
    Option.Rel Action.Alike (choice? s cases default) (choice? s cases' default') := by
  induction hcases with
  | nil => exact hdefault
  | @cons c c' cs cs' hc _ ih =>
    obtain ⟨hpredicate, haction⟩ := hc
    simp only [choice?, List.find?_cons, hpredicate] at ih ⊢
    cases (c'.predicate.eval s).1 with
    | true => exact .some haction
    | false => exact ih

theorem Act.related_choose {cases cases' : List Case}
    (hcases : List.Forall₂ Case.Alike cases cases') {default default' : Option Action}
    (hdefault : Option.Rel Action.Alike default default') (ctx : Context) (state : State) :
    (choose cases default ctx state).Related World.QuietlySame (Option.Rel Action.Alike)
      (choose cases' default' ctx state) := by
  refine related_of_reports (reports_choose cases default ctx state)
    (reports_choose cases' default' ctx state) fun m w w' hw ↦ ?_
  rw [choose_eq_choice?, choose_eq_choice?, hw.handles_eq]
  exact Case.rel_choice? hcases hdefault _

/-- A switch is as its cases and its default are. -/
theorem Action.alike_switch (name : String) {cases cases' : List Case}
    (hcases : List.Forall₂ Case.Alike cases cases') {default default' : Option Action}
    (hdefault : Option.Rel Action.Alike default default') :
    (switch name cases default).Alike (switch name cases' default') := by
  intro span ctx state
  refine (Run.related_lift (Act.related_log _ _)).bind fun _ _ _ ↦
    (Run.related_lift (Act.related_choose hcases hdefault ctx state)).bind fun a a' ha ↦ ?_
  cases ha with
  | none => exact Run.related_pure ⟨rfl, rfl, rfl⟩
  | some ha => exact ha (some (.switch name)) ctx state

end ControlLoop
