import ControlLoop.Proofs.Pipeline.Blindness
import ControlLoop.Script.Plan

/-!
# What scripts describe is blind

No test of a script looks at a span, and no effect looks at a span or at the log but to make a
context under a span or to log more. So every pipeline that is built from a plan is blind.
-/

namespace ControlLoop

namespace Predicate

variable {p : Predicate} {ps : List Predicate}

/-- A negation looks at a span only if what it negates does. -/
theorem Blind.not (h : p.Blind) : (Predicate.not p).Blind := fun s span ↦ by
  rw [eval, eval, h s span]

theorem Blind.all (h : ∀ p ∈ ps, p.Blind) : (Predicate.all ps).Blind := by
  intro s span
  rw [eval, eval]
  induction ps with
  | nil => rfl
  | cons p ps ih =>
    obtain ⟨hp, hps⟩ := List.forall_mem_cons.1 h
    rw [evalAll, evalAll, hp s span, ih hps]

theorem Blind.any (h : ∀ p ∈ ps, p.Blind) : (Predicate.any ps).Blind := by
  intro s span
  rw [eval, eval]
  induction ps with
  | nil => rfl
  | cons p ps ih =>
    obtain ⟨hp, hps⟩ := List.forall_mem_cons.1 h
    rw [evalAny, evalAny, hp s span, ih hps]

end Predicate

namespace Script

namespace Test

/-- The note that a leaf adds has the value of the predicate, which does not depend on the span. -/
theorem blind_notedLeaf {p : Predicate} (name : String) (h : p.Blind) :
    (notedLeaf name p).Blind := by
  intro s span
  unfold notedLeaf
  rw [Predicate.eval, Predicate.eval, h s span]

mutual

/-- No test of a script looks at the span of the context. -/
theorem blind_predicate : ∀ t : Test, t.predicate.Blind
  | .not t => (blind_predicate t).not
  | .all ts => .all (blind_predicates ts)
  | .any ts => .any (blind_predicates ts)
  | .noted label t => blind_notedLeaf label (blind_predicate t)
  | .deleting | .const _ | .spec _ | .name _ | .hasFinalizer _ | .conditionAffirmed _
  | .conditionDenied _ | .conditionPresent _ | .field _ _ | .contextDone | .bagContains _
  | .versionAtLeast _ => fun _ _ ↦ rfl

theorem blind_predicates : ∀ ts : List Test, ∀ p ∈ predicates ts, p.Blind
  | [] => fun _ hp ↦ absurd hp List.not_mem_nil
  | t :: ts => List.forall_mem_cons.2 ⟨blind_predicate t, blind_predicates ts⟩

end

end Test

namespace ContextEffect

variable {span span' : Option Span} {ctx ctx' : Context}

/-- An effect on contexts that differ by their spans makes contexts that differ by their spans. -/
theorem resembles_perform (h : ctx.bare = ctx'.bare) (e : ContextEffect) :
    Act.Resembles Context.bare (e.perform span ctx) (e.perform span' ctx') := by
  intro m w w' hw
  rw [Context.eq_withSpan_of_bare_eq h, World.eq_of_unlogged_eq hw]
  cases e with
  | background | field | deadline | cancellation | span => exact ⟨rfl, rfl⟩
  | timeout limit =>
    refine ⟨?_, rfl⟩
    change (ctx.withTimeout m.now limit).bare =
      ((ctx.withSpan ctx'.span).withTimeout m.now limit).bare
    unfold Context.withTimeout
    cases m.now.after? limit <;> rfl

theorem resembles_performAll (h : ctx.bare = ctx'.bare) (effects : List ContextEffect) :
    Act.Resembles Context.bare (performAll span ctx effects) (performAll span' ctx' effects) := by
  unfold performAll
  induction effects generalizing ctx ctx' with
  | nil => exact Act.resembles_pure h
  | cons e es ih =>
    rw [List.foldlM_cons, List.foldlM_cons]
    exact (resembles_perform h e).bind fun _ _ hnext ↦ ih hnext

end ContextEffect

namespace UpdateCall

/-- The hooks that a script can give to a status update do not look at spans. -/
theorem blind_call (c : UpdateCall) : c.call.Blind := by
  cases c with
  | wrapper context replacement =>
    exact fun e ↦ (Act.resembles_leave _).bind fun _ _ _ ↦ Act.resembles_pure rfl
  | onError s effects =>
    intro span span' ctx ctx' e hctx
    refine (Act.resembles_leave _).bind fun _ _ _ ↦ ?_
    exact (ContextEffect.resembles_performAll hctx effects).bind fun _ _ hnext ↦
      Act.resembles_pure (Prod.ext rfl hnext)
  | onSuccess s effects =>
    intro span span' ctx ctx' hctx
    refine (Act.resembles_leave _).bind fun _ _ _ ↦ ?_
    exact (ContextEffect.resembles_performAll hctx effects).bind fun _ _ hnext ↦
      Act.resembles_pure (Prod.ext rfl hnext)
  | set | keepOnly | keepAll | logMessage | failedSignal | successSignal => trivial

theorem blind_options (calls : List UpdateCall) : (options calls).Blind :=
  .ofCalls fun c hc ↦ by
    obtain ⟨call, -, rfl⟩ := List.mem_map.1 hc
    exact blind_call call

end UpdateCall

namespace Stage

def bare (s : Stage) : Stage := { s with ctx := s.ctx.bare }

variable {s s' : Stage}

/-- Stages that are the same but for spans differ by the span of the context alone. -/
theorem eq_of_bare_eq (h : s.bare = s'.bare) :
    s' = { s with ctx := s.ctx.withSpan s'.ctx.span } := by
  obtain ⟨ended, ctx, state⟩ := s
  obtain ⟨ended', ctx', state'⟩ := s'
  obtain ⟨rfl, hctx, rfl⟩ := Stage.mk.inj h
  exact congrArg (Stage.mk ended · state) (Context.eq_withSpan_of_bare_eq hctx)

theorem bare_ofReply {r r' : Reply} (h : r.bare = r'.bare) :
    (ofReply r).bare = (ofReply r').bare := by
  obtain ⟨signal, ctx, state⟩ := r
  obtain ⟨signal', ctx', state'⟩ := r'
  obtain ⟨rfl, hctx, rfl⟩ := Reply.mk.inj h
  have hctx' : ctx.bare = ctx'.bare := hctx
  unfold ofReply endIfTerminal
  cases signal.isTerminal <;> simp [bare, endWith, hctx']

end Stage

theorem resembles_leaveFinding (name : String) (finding : Finding) :
    Act.Resembles id (leaveFinding name finding) (leaveFinding name finding) := by
  cases finding with
  | nothing => exact Act.resembles_pure rfl
  | _ => exact Act.resembles_leave _

namespace Effect

variable {span span' : Option Span} {s s' : Stage}

/-- An effect that takes no time does the same to stages that differ by their spans. -/
theorem resembles_performAtOnce (h : s.bare = s'.bare) (e : Effect) :
    Act.Resembles Stage.bare (e.performAtOnce span s) (e.performAtOnce span' s') := by
  have hs' := Stage.eq_of_bare_eq h
  generalize s'.ctx.span = own at hs'
  subst hs'
  have hctx : s.ctx.bare = (s.ctx.withSpan own).bare := rfl
  cases e with
  | context e =>
    refine (e.resembles_perform hctx).bind fun next next' hnext ↦ Act.resembles_pure ?_
    exact congrArg (Stage.mk s.ended · s.state) hnext
  | bag e =>
    unfold performAtOnce
    cases e.perform s.state.bag with
    | mk finding changed =>
      exact (resembles_leaveFinding _ _).bind fun _ _ _ ↦ Act.resembles_pure rfl
  | field name => exact (resembles_leaveFinding _ _).bind fun _ _ _ ↦ Act.resembles_pure rfl
  | returnIf t signal =>
    have hperform (span : Option Span) (s : Stage) (m : Moment) (w : World) :
        performAtOnce span s (.returnIf t signal) m w =
          let verdict := t.predicate.eval ⟨s.ctx, s.state, m.now, w.handles⟩
          (if verdict.1 then s.endWith signal else s,
            { w with trail := w.trail ++ verdict.2 }) := rfl
    intro m w w' hw
    rw [World.eq_of_unlogged_eq hw, hperform, hperform]
    simp only [t.blind_predicate ⟨s.ctx, s.state, m.now, w.handles⟩ own]
    cases (t.predicate.eval ⟨s.ctx, s.state, m.now, w.handles⟩).1
    · exact ⟨rfl, rfl⟩
    · exact ⟨rfl, rfl⟩
  | logFailure e message signal =>
    refine (Act.resembles_logFailure _ _ _ _ _ _ _).bind fun r r' hr ↦ Act.resembles_pure ?_
    obtain rfl : r = r' := hr
    rfl
  | persist =>
    refine (Act.resembles_persist _).bind fun answer answer' hanswer ↦ ?_
    obtain rfl : answer = answer' := hanswer
    cases answer with
    | ok written => exact (resembles_leaveFinding _ _).bind fun _ _ _ ↦ Act.resembles_pure rfl
    | error e => exact (resembles_leaveFinding _ _).bind fun _ _ _ ↦ Act.resembles_pure rfl
  | update calls =>
    refine ((UpdateCall.blind_options calls).run hctx s.state).bind fun r r' hr ↦ ?_
    obtain ⟨hsignal, -, -⟩ := Reply.mk.inj hr
    rw [hsignal]
    exact (resembles_leaveFinding _ _).bind fun _ _ _ ↦ Act.resembles_pure (Stage.bare_ofReply hr)
  | _ =>
    intro m w w' hw
    rw [World.eq_of_unlogged_eq hw]
    exact ⟨rfl, rfl⟩

end Effect

namespace Build

variable {α β : Type} {Q : α → Prop} {R : β → Prop}

/-- Whatever is built has the property. -/
def Makes (Q : α → Prop) (b : Build α) : Prop :=
  ∀ notes a notes', b.run notes = (.ok a, notes') → Q a

theorem makes_pure {a : α} (h : Q a) : Makes Q (pure a) := by
  intro notes b notes' hb
  cases hb
  exact h

theorem makes_note (n : Note) : Makes (fun _ ↦ True) (note n) := fun _ _ _ _ ↦ trivial

/-- What holds of all that a building can yield holds after the next building as well. -/
theorem Makes.bind {b : Build α} {f : α → Build β} (h : b.Makes Q) (hf : ∀ a, Q a → (f a).Makes R) :
    (b >>= f).Makes R := by
  intro notes c notes' hc
  have hbind : (b >>= f).run notes =
      match b.run notes with
      | (.ok a, more) => (f a).run more
      | (.error e, more) => (.error e, more) := by
    change (match b.run notes with | (r, more) => ExceptT.bindCont f r more) = _
    rcases b.run notes with ⟨_ | _, _⟩ <;> rfl
  rw [hbind] at hc
  cases hb : b.run notes with
  | mk r more =>
    rw [hb] at hc
    cases r with
    | error e => cases hc
    | ok a => exact hf a (h notes a more hb) more c notes' hc

end Build

theorem resembles_leaveReply {r r' : Reply} (h : r.bare = r'.bare) :
    Run.Resembles Stage.bare
      (do
        Act.leave (.effect "run" [.signal r.signal])
        return .ofReply r)
      (do
        Act.leave (.effect "run" [.signal r'.signal])
        return .ofReply r') := by
  obtain ⟨hsignal, -, -⟩ := Reply.mk.inj h
  rw [hsignal]
  exact (Run.resembles_lift (Act.resembles_leave _)).bind fun _ _ _ ↦
    Run.resembles_pure (Stage.bare_ofReply h)

mutual

/-- An effect that waits, or runs a plan of its own, does the same to stages that differ by their
spans. -/
theorem Effect.resembles_perform {span span' : Option Span} {s s' : Stage} (h : s.bare = s'.bare)
    (e : Effect) : Run.Resembles Stage.bare (e.perform span s) (e.perform span' s') := by
  obtain ⟨-, hctx, hstate⟩ := Stage.mk.inj h
  cases e with
  | sleep d => exact (Run.resembles_sleep d).bind fun _ _ _ ↦ Run.resembles_pure h
  | awaitDone =>
    refine (Run.resembles_awaitDone hctx false).bind fun e e' he ↦ ?_
    obtain rfl : e = e' := he
    exact (Run.resembles_lift (Act.resembles_leave _)).bind fun _ _ _ ↦ Run.resembles_pure h
  | run p =>
    have hblind := Plan.blind_build p
    unfold Effect.perform
    cases hbuild : (Plan.build p).run [] with
    | mk built notes =>
      refine (Run.resembles_lift (Act.resembles_leaveAll notes)).bind fun _ _ _ ↦ ?_
      cases built with
      | ok pipeline =>
        have hpipeline := (hblind [] pipeline notes hbuild).action
        rw [hstate]
        exact (Action.blind_iff.1 hpipeline span span' _ _ _ hctx).bind fun _ _ hr ↦
          resembles_leaveReply hr
      | error e =>
        refine (Run.resembles_pure ?_).bind fun _ _ hr ↦ resembles_leaveReply hr
        rw [hstate]
        exact congrArg (Reply.mk _ · _) hctx
  | _ => exact Run.resembles_lift (Effect.resembles_performAtOnce h _)

theorem Effect.resembles_performAll {span span' : Option Span} {s s' : Stage} (h : s.bare = s'.bare)
    (es : List Effect) :
    Run.Resembles Stage.bare (Effect.performAll span s es) (Effect.performAll span' s' es) := by
  cases es with
  | nil => exact Run.resembles_pure h
  | cons e es =>
    refine (Effect.resembles_perform h e).bind fun next next' hnext ↦ ?_
    obtain ⟨hended, -, -⟩ := Stage.mk.inj hnext
    rw [hended]
    cases next'.ended.isSome with
    | true => exact Run.resembles_pure hnext
    | false => exact Effect.resembles_performAll hnext es

/-- Every pipeline that is built from a plan takes the same course under every span. -/
theorem Plan.blind_build (p : Plan) : (Plan.build p).Makes Pipeline.Blind := by
  cases p with
  | step name effects signal =>
    refine Build.makes_pure (.leaf (Action.blind_iff.2 fun span span' ctx ctx' state hctx ↦ ?_))
    have hstage : Stage.bare ⟨none, ctx, state⟩ = Stage.bare ⟨none, ctx', state⟩ :=
      congrArg (Stage.mk none · state) hctx
    refine (Run.resembles_lift (Act.resembles_leave _)).bind fun _ _ _ ↦ ?_
    refine (Effect.resembles_performAll hstage effects).bind fun s s' hs ↦ Run.resembles_pure ?_
    obtain ⟨hended, hctx', hstate⟩ := Stage.mk.inj hs
    simp only [Reply.bare, hended, hctx', hstate]
  | proceed => exact Build.makes_pure (.leaf (Action.blind_always _ _))
  | forget => exact Build.makes_pure (.leaf (Action.blind_always _ _))
  | requeue after => exact Build.makes_pure (.leaf (Action.blind_always _ _))
  | sequence name parts noted =>
    refine (Plan.blind_buildAll parts).bind fun built hbuilt ↦ ?_
    cases noted with
    | false => exact Build.makes_pure (.sequence hbuilt name)
    | true => exact (Build.makes_note _).bind fun _ _ ↦ Build.makes_pure (.sequence hbuilt name)
  | switch name cases default =>
    refine (Plan.blind_buildDefault default).bind fun builtDefault hdefault ↦ ?_
    exact (Plan.blind_buildCases cases).bind fun built hbuilt ↦ Build.makes_pure
      (.switch (fun c hc ↦ (hbuilt c hc).1) (fun c hc ↦ (hbuilt c hc).2) hdefault name)
  | ifElse name test part otherwise =>
    refine (Plan.blind_build part).bind fun built hbuilt ↦ ?_
    exact (Plan.blind_buildDefault otherwise).bind fun builtDefault hdefault ↦ Build.makes_pure
      (.switch (List.forall_mem_singleton.2 test.blind_predicate)
        (List.forall_mem_singleton.2 hbuilt) hdefault name)
  | update calls =>
    have hupdate : Build.Makes StatusUpdate.Blind
        (ExceptT.mk (pure (UpdateCall.options calls).build)) := by
      intro notes u notes' hu
      exact (UpdateCall.blind_options calls).build (Prod.mk.inj hu).1
    exact hupdate.bind fun u hu ↦ Build.makes_pure (.leaf hu.action)

theorem Plan.blind_buildAll (ps : List Plan) :
    (Plan.buildAll ps).Makes fun parts ↦ ∀ p ∈ parts, p.Blind := by
  cases ps with
  | nil => exact Build.makes_pure fun _ hp ↦ absurd hp List.not_mem_nil
  | cons p ps =>
    refine (Plan.blind_build p).bind fun part hpart ↦ ?_
    exact (Plan.blind_buildAll ps).bind fun parts hparts ↦
      Build.makes_pure (List.forall_mem_cons.2 ⟨hpart, hparts⟩)

theorem Plan.blind_buildCases (cs : List (Test × Plan)) :
    (Plan.buildCases cs).Makes fun cases ↦ ∀ c ∈ cases, c.1.Blind ∧ c.2.Blind := by
  cases cs with
  | nil => exact Build.makes_pure fun _ hp ↦ absurd hp List.not_mem_nil
  | cons c cs =>
    refine (Plan.blind_buildCase c).bind fun first hfirst ↦ ?_
    exact (Plan.blind_buildCases cs).bind fun cases hcases ↦
      Build.makes_pure (List.forall_mem_cons.2 ⟨hfirst, hcases⟩)

theorem Plan.blind_buildCase (c : Test × Plan) :
    (Plan.buildCase c).Makes fun c ↦ c.1.Blind ∧ c.2.Blind := by
  obtain ⟨test, p⟩ := c
  exact (Plan.blind_build p).bind fun part hpart ↦
    Build.makes_pure ⟨test.blind_predicate, hpart⟩

theorem Plan.blind_buildDefault (default : Option Plan) :
    (Plan.buildDefault default).Makes fun default ↦ ∀ p, default = some p → p.Blind := by
  cases default with
  | none => exact Build.makes_pure fun _ hp ↦ (Option.some_ne_none _ hp.symm).elim
  | some p =>
    exact (Plan.blind_build p).bind fun part hpart ↦
      Build.makes_pure fun _ hp ↦ Option.some.inj hp ▸ hpart

end

end Script

end ControlLoop
