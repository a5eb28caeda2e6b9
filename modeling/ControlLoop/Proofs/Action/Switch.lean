import ControlLoop.Action.Switch
import ControlLoop.Proofs.Action.Visit

/-!
# The choice of a switch

A switch looks at the point where it starts and runs one action or none. Choosing leaves notes and
log entries and nothing else, so the chosen action starts on the context and state of the switch and
at its moment.
-/

namespace ControlLoop

namespace Point

/-- What a predicate can look at when it is evaluated at this point. -/
def scene (p : Point) : Scene := ⟨p.ctx, p.state, p.moment.now, p.world.handles⟩

/-- The point from which a switch runs what it has chosen. -/
def choosing (name : String) (cases : List Case) (default : Option Action) (p : Point) : Point :=
  let opened := p.log (.switchOpened name p.ctx.span)
  { opened with world := (Act.choose cases default p.ctx p.state p.moment opened.world).2 }

end Point

namespace Case

/-- The action of the first case that holds, else the default. -/
def choice? (s : Scene) (cases : List Case) (default : Option Action) : Option Action :=
  match cases.find? fun c ↦ (c.predicate.eval s).1 with
  | some c => some c.action
  | none => default

/-- The case that a switch selects and reports is the first that holds. -/
theorem select_eq_choice? (s : Scene) (index : Nat) (cases : List Case) (default : Option Action) :
    (match (select s index cases).1 with
      | some (_, action) => some action
      | none => default) = choice? s cases default := by
  induction cases generalizing index with
  | nil => rfl
  | cons c cs ih =>
    have hrest := ih (index + 1)
    simp only [choice?, select, List.find?_cons] at hrest ⊢
    cases heval : c.predicate.eval s with
    | mk holds notes =>
      cases holds with
      | true => rfl
      | false => exact hrest

end Case

theorem Act.choose_eq (cases : List Case) (default : Option Action) (ctx : Context) (state : State)
    (m : Moment) (w : World) :
    Act.choose cases default ctx state m w =
      let selected := Case.select ⟨ctx, state, m.now, w.handles⟩ 0 cases
      let noted : World := { w with trail := w.trail ++ selected.2 }
      match selected.1 with
      | some (index, action) => (some action, noted.logged (.caseMatched index action.name))
      | none => (default, noted.logged .noCaseMatched) := by
  have hbind : Act.choose cases default ctx state m w =
      (match (Case.select ⟨ctx, state, m.now, w.handles⟩ 0 cases).1 with
        | some (index, action) => do
          log (.caseMatched index action.name)
          return some action
        | none => do
          log .noCaseMatched
          return default : Act (Option Action)) m
        { w with
          trail := w.trail ++ (Case.select ⟨ctx, state, m.now, w.handles⟩ 0 cases).2 } := rfl
  rw [hbind]
  generalize Case.select ⟨ctx, state, m.now, w.handles⟩ 0 cases = selected
  obtain ⟨chosen, notes⟩ := selected
  cases chosen <;> rfl

theorem Act.choose_fst (name : String) (cases : List Case) (default : Option Action) (p : Point) :
    (Act.choose cases default p.ctx p.state p.moment
      (p.log (.switchOpened name p.ctx.span)).world).1 = Case.choice? p.scene cases default := by
  rw [Act.choose_eq, ← Case.select_eq_choice? p.scene 0]
  have hscene : Case.select ⟨p.ctx, p.state, p.moment.now,
      (p.log (.switchOpened name p.ctx.span)).world.handles⟩ 0 cases =
    Case.select p.scene 0 cases := rfl
  rw [hscene]
  generalize Case.select p.scene 0 cases = selected
  obtain ⟨chosen, notes⟩ := selected
  cases chosen <;> rfl

/-- Choosing a case changes what can be read afterwards and nothing else. -/
@[simp] theorem Point.quiet_choosing (name : String) (cases : List Case)
    (default : Option Action) (p : Point) :
    (p.choosing name cases default).quiet = p.quiet := by
  have hworld : (p.choosing name cases default).world.quiet = p.world.quiet := by
    unfold choosing
    simp only [Act.choose_eq]
    split <;> rfl
  rw [quiet, hworld]
  rfl

/-- A switch plays the action that it chooses from the point after its choice. -/
theorem Action.play_switch (name : String) (cases : List Case) (default : Option Action)
    (span : Option Span) (p : Point) :
    (switch name cases default).play span p =
      match Case.choice? p.scene cases default with
      | some a => a.play (some (.switch name)) (p.choosing name cases default)
      | none => (p.choosing name cases default).answer .proceed := by
  rw [← Act.choose_fst name]
  have hbind : (switch name cases default).play span p =
      (match (Act.choose cases default p.ctx p.state p.moment
          (p.log (.switchOpened name p.ctx.span)).world).1 with
        | some a => a.run (some (.switch name)) p.ctx p.state
        | none => return ⟨.proceed, p.ctx, p.state⟩ : Run Reply).play p.moment
        (p.choosing name cases default).world p.coming := rfl
  rw [hbind]
  cases (Act.choose cases default p.ctx p.state p.moment
    (p.log (.switchOpened name p.ctx.span)).world).1 <;> rfl

end ControlLoop
