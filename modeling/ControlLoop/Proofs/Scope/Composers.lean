import ControlLoop.Proofs.Pipeline.Confinement
import ControlLoop.Proofs.Scope.Admission

/-!
# Actions that keep to a scope

An action keeps to a scope if from contexts and objects of the scope its runs are admitted and leave
contexts and objects of the scope. Composers keep to a scope if what they run does and what they
look at is of the scope, so a pipeline does if its leaves and predicates do. A status update keeps
to a scope if its hooks do.
-/

namespace ControlLoop

variable {d : Scope}

/-- The context ends with tokens of the scope only, and the object has the key of the scope. -/
structure Scope.Covers (d : Scope) (ctx : Context) (state : State) : Prop where
  tokens : d.OwnsTokens ctx.tokens
  key : state.object.key = d.key

def Action.KeepsTo (d : Scope) (a : Action) : Prop :=
  ∀ span ctx state, d.Covers ctx state →
    d.Admits (fun reply ↦ d.Covers reply.ctx reply.state) (a.run span ctx state)

/-- The predicate looks at no handles but those of the scope. -/
def Predicate.KeepsTo (d : Scope) (p : Predicate) : Prop :=
  ∀ ctx state now hs ks, d.Covers ctx state → d.SameHandles hs ks →
    p.eval ⟨ctx, state, now, hs⟩ = p.eval ⟨ctx, state, now, ks⟩

/-- What a switch writes to the log when it has selected. -/
def Case.report : Option (Nat × Action) → LogEntry
  | some (index, action) => .caseMatched index action.name
  | none => .noCaseMatched

theorem Act.lift_choose_eq_bind (cases : List Case) (default : Option Action) (ctx : Context)
    (state : State) :
    (liftM (choose cases default ctx state) : Run (Option Action)) =
      (liftM (read : Act Moment) : Run Moment) >>= fun m ↦
        (liftM ((fun w ↦ Case.select ⟨ctx, state, m.now, w.handles⟩ 0 cases) <$>
          (get : Act World)) : Run (Option (Nat × Action) × List Note)) >>= fun selected ↦
        (liftM (leaveAll selected.2) : Run Unit) >>= fun _ ↦
        (liftM (log (Case.report selected.1)) : Run Unit) >>= fun _ ↦
        pure (match selected.1 with
          | some (_, action) => some action
          | none => default) := by
  funext m w
  change Progress.finished (choose cases default ctx state m w).1
      (choose cases default ctx state m w).2 =
    .finished
      (match (Case.select ⟨ctx, state, m.now, w.handles⟩ 0 cases).1 with
        | some (_, action) => some action
        | none => default)
      (World.logged { w with
          trail := w.trail ++ (Case.select ⟨ctx, state, m.now, w.handles⟩ 0 cases).2 }
        (Case.report (Case.select ⟨ctx, state, m.now, w.handles⟩ 0 cases).1))
  rw [choose_eq]
  generalize Case.select ⟨ctx, state, m.now, w.handles⟩ 0 cases = selected
  obtain ⟨chosen, notes⟩ := selected
  cases chosen with
  | none => rfl
  | some entry => rfl

namespace Action

/-- The actions of a sequence are admitted one after the other, since each leaves a context and a
state that the scope covers. -/
theorem admits_runAll {actions : List Action} (h : ∀ a ∈ actions, a.KeepsTo d) (span : Option Span)
    {ctx : Context} {state : State} (hcovers : d.Covers ctx state) :
    d.Admits (fun reply ↦ d.Covers reply.ctx reply.state) (runAll span actions ctx state) := by
  induction actions generalizing ctx state with
  | nil => exact .pure hcovers
  | cons action rest ih =>
    obtain ⟨haction, hrest⟩ := List.forall_mem_cons.1 h
    unfold runAll
    refine (Scope.Admits.contextError hcovers.tokens).andThen fun done ↦ ?_
    cases done with
    | some e => exact (Scope.Admits.log _).andThen fun _ ↦ .pure hcovers
    | none =>
      refine (Scope.Admits.log _).andThen fun _ ↦
        (haction span ctx state hcovers).bind fun reply hreply ↦ ?_
      by_cases hterminal : reply.signal.isTerminal
      · rw [if_pos hterminal]
        exact (Scope.Admits.log _).andThen fun _ ↦ .pure hreply
      · rw [if_neg hterminal]
        exact ih hrest hreply

/-- A sequence of actions that keep to a scope keeps to it. -/
theorem keepsTo_sequence {name : String} {actions : List Action} (h : ∀ a ∈ actions, a.KeepsTo d) :
    (sequence name actions).KeepsTo d := fun _ _ _ hcovers ↦
  (Scope.Admits.log _).andThen fun _ ↦ admits_runAll h (some (.sequence name)) hcovers

/-- Predicates that keep to a scope choose the same case for the same handles in it. -/
theorem select_eq_of_sameHandles {cases : List Case} (h : ∀ c ∈ cases, c.predicate.KeepsTo d)
    {ctx : Context} {state : State} (hcovers : d.Covers ctx state) (now : Instant) (index : Nat)
    {hs ks : Handles} (hsame : d.SameHandles hs ks) :
    Case.select ⟨ctx, state, now, hs⟩ index cases =
      Case.select ⟨ctx, state, now, ks⟩ index cases := by
  induction cases generalizing index with
  | nil => rfl
  | cons c cs ih =>
    obtain ⟨hc, hcs⟩ := List.forall_mem_cons.1 h
    unfold Case.select
    rw [hc ctx state now hs ks hcovers hsame, ih hcs]

theorem admits_choose {cases : List Case} (h : ∀ c ∈ cases, c.predicate.KeepsTo d)
    (default : Option Action) {ctx : Context} {state : State} (hcovers : d.Covers ctx state) :
    d.Admits (fun chosen ↦ ∃ s, chosen = Case.choice? s cases default)
      (liftM (Act.choose cases default ctx state)) := by
  rw [Act.lift_choose_eq_bind]
  refine Scope.Admits.clocks.andThen fun m ↦ ?_
  have hselect : d.Admits (fun selected ↦ ∃ s, selected = Case.select s 0 cases)
      (liftM ((fun w ↦ Case.select ⟨ctx, state, m.now, w.handles⟩ 0 cases) <$>
        (get : Act World))) :=
    .look (fun hs ↦ Case.select ⟨ctx, state, m.now, hs⟩ 0 cases) (fun hs ↦ ⟨_, rfl⟩)
      fun _ _ hsame ↦ select_eq_of_sameHandles h hcovers m.now 0 hsame
  refine hselect.bind fun selected hselected ↦ ?_
  obtain ⟨s, rfl⟩ := hselected
  refine (Scope.Admits.leaveAll _).andThen fun _ ↦ (Scope.Admits.log _).andThen fun _ ↦ .pure ?_
  exact ⟨s, Case.select_eq_choice? s 0 cases default⟩

/-- A switch keeps to a scope if its predicates, its cases and its default do. -/
theorem keepsTo_switch {name : String} {cases : List Case} {default : Option Action}
    (hpredicates : ∀ c ∈ cases, c.predicate.KeepsTo d)
    (hcases : ∀ c ∈ cases, c.action.KeepsTo d)
    (hdefault : ∀ a, default = some a → a.KeepsTo d) : (switch name cases default).KeepsTo d := by
  intro span ctx state hcovers
  refine (Scope.Admits.log _).andThen fun _ ↦
    (admits_choose hpredicates default hcovers).bind fun chosen hchosen ↦ ?_
  cases chosen with
  | none => exact .pure hcovers
  | some a =>
    obtain ⟨s, hs⟩ := hchosen
    obtain ⟨c, hc, rfl⟩ | hdef := Case.mem_or_eq_of_choice? hs.symm
    · exact hcases c hc (some (.switch name)) ctx state hcovers
    · exact hdefault a hdef (some (.switch name)) ctx state hcovers

end Action

/-- A pipeline keeps to a scope if its leaves and the predicates of its switches do. -/
theorem Pipeline.keepsTo_action {p : Pipeline} (hleaves : ∀ a, Part (.leaf a) p → a.KeepsTo d)
    (hpredicates : ∀ name cases default, Part (.switch name cases default) p →
      ∀ c ∈ cases, c.1.KeepsTo d) : p.action.KeepsTo d := by
  induction p with
  | leaf a => exact hleaves a .self
  | sequence name parts ih =>
    unfold action
    rw [partActions_eq_map]
    apply Action.keepsTo_sequence
    intro a ha
    obtain ⟨q, hq, rfl⟩ := List.mem_map.1 ha
    exact ih q hq (fun a part ↦ hleaves a (.sequence hq part))
      fun name cases default part ↦ hpredicates name cases default (.sequence hq part)
  | switch name cases default ihCases ihDefault =>
    unfold action
    rw [caseActions_eq_map]
    apply Action.keepsTo_switch
    · intro c hc
      obtain ⟨⟨predicate, q⟩, hq, rfl⟩ := List.mem_map.1 hc
      exact hpredicates name cases default .self (predicate, q) hq
    · intro c hc
      obtain ⟨⟨predicate, q⟩, hq, rfl⟩ := List.mem_map.1 hc
      exact ihCases (predicate, q) hq (fun a part ↦ hleaves a (.case hq part))
        fun name cases default part ↦ hpredicates name cases default (.case hq part)
    · intro a ha
      cases default with
      | none => cases ha
      | some q =>
        cases ha
        exact ihDefault q rfl (fun a part ↦ hleaves a (.default part))
          fun name cases default part ↦ hpredicates name cases default (.default part)

namespace StatusUpdate

/-- The hooks of the update reach no more than the scope and leave contexts of the scope. -/
structure KeepsTo (d : Scope) (u : StatusUpdate) : Prop where
  wrapper : ∀ e, d.Admits (fun _ ↦ True) (liftM (u.wrapper e))
  onError : ∀ hook, u.onError = some hook → ∀ span ctx e, d.OwnsTokens ctx.tokens →
    d.Admits (fun answer ↦ d.OwnsTokens answer.2.tokens) (liftM (hook span ctx e))
  onSuccess : ∀ hook, u.onSuccess = some hook → ∀ span ctx, d.OwnsTokens ctx.tokens →
    d.Admits (fun answer ↦ d.OwnsTokens answer.2.tokens) (liftM (hook span ctx))

variable {u : StatusUpdate} (h : u.KeepsTo d) (span : Option Span) {ctx : Context}
include h

theorem KeepsTo.answerFailure (hctx : d.OwnsTokens ctx.tokens) (kind : String) (e : Error) :
    d.Admits (fun answer ↦ d.OwnsTokens answer.2.tokens)
      (liftM (u.answerFailure span ctx kind e)) := by
  unfold StatusUpdate.answerFailure
  refine (h.wrapper e).lift_bind fun wrapped _ ↦ ?_
  cases hhook : u.onError with
  | some hook => exact h.onError hook hhook span ctx wrapped hctx
  | none => exact (Scope.Admits.logFailure _ _ _ _).lift_bind fun _ _ ↦ .lift_pure hctx

theorem KeepsTo.answerSuccess (hctx : d.OwnsTokens ctx.tokens) :
    d.Admits (fun answer ↦ d.OwnsTokens answer.2.tokens) (liftM (u.answerSuccess span ctx)) := by
  unfold StatusUpdate.answerSuccess
  cases hhook : u.onSuccess with
  | some hook => exact h.onSuccess hook hhook span ctx hctx
  | none => exact .pure hctx

/-- The answer of the store is met within the scope by hooks that keep to it. -/
theorem KeepsTo.respond {state : State} (hcovers : d.Covers ctx state) {object : Object}
    (hobject : object.key = d.key) (answer : Except Error Object)
    (hanswer : ∀ written, answer = .ok written → written.key = d.key) :
    d.Admits (fun reply ↦ d.Covers reply.ctx reply.state)
      (liftM (u.respond span ctx state object answer)) := by
  cases answer with
  | error e =>
    refine (h.answerFailure span hcovers.tokens object.kind e).lift_bind fun answered hctx ↦ ?_
    exact .lift_pure ⟨hctx, hobject⟩
  | ok written =>
    refine (h.answerSuccess span hcovers.tokens).lift_bind fun answered hctx ↦ ?_
    exact .lift_pure ⟨hctx, hanswer written rfl⟩

/-- A status update keeps to a scope if its hooks do. -/
theorem KeepsTo.action : u.action.KeepsTo d := by
  intro span ctx state hcovers
  have happly : u.apply span ctx state =
      (if (u.stale state.object.conditions).isEmpty then pure ()
        else Act.log (.staleRemoved state.object.key (u.stale state.object.conditions))) >>=
      fun _ ↦ (read : Act Moment) >>= fun m ↦
        Act.persist (u.objectAfter m.clock state.object) >>=
          u.respond span ctx state (u.objectAfter m.clock state.object) := by
    unfold StatusUpdate.apply
    dsimp only
    cases (u.stale state.object.conditions).isEmpty with
    | true => rfl
    | false => rfl
  have hnote : d.Admits (fun _ ↦ True)
      (liftM (if (u.stale state.object.conditions).isEmpty then pure ()
        else Act.log (.staleRemoved state.object.key (u.stale state.object.conditions)) :
          Act Unit)) := by
    split
    · exact .lift_pure trivial
    · exact .log _
  change d.Admits _ (liftM (u.apply span ctx state))
  rw [happly]
  refine hnote.lift_bind fun _ _ ↦ Scope.Admits.clocks.lift_bind fun m _ ↦ ?_
  have hobject : (u.objectAfter m.clock state.object).key = d.key := hcovers.key
  exact (Scope.Admits.persist hobject).lift_bind fun answer hanswer ↦
    h.respond span hcovers hobject answer hanswer

end StatusUpdate

end ControlLoop
