import ControlLoop.Proofs.Action.Alike

/-!
# Errors wrapped otherwise

An error that a status update wraps goes to the error hook and from there, if the hook passes it on,
to the end of the pass. Contexts that the wrapper puts around it in addition make no difference on
this way but to what is reported, as long as the hook answers errors with one root alike. So two
pipelines that differ by such contexts only are alike, if none of their actions looks at what has
been reported.
-/

namespace ControlLoop

/-- The second wrapper does what the first one does and wraps what that comes to in further
contexts, whatever these depend on. -/
def ErrorWrapper.WrapsMore (f g : ErrorWrapper) : Prop :=
  ∀ e m w, ∃ contexts, g e m w = ((f e m w).1.wrapAll contexts, (f e m w).2)

/-- What a wrapper and one that wraps more make of an error has one root. -/
theorem ErrorWrapper.WrapsMore.related {f g : ErrorWrapper} (h : f.WrapsMore g) {e : Error}
    (hf : (f e).Related World.QuietlySame Error.Akin (f e)) :
    (f e).Related World.QuietlySame Error.Akin (g e) := by
  intro m w w' hw
  obtain ⟨contexts, hwrapped⟩ := h e m w'
  obtain ⟨hakin, hworld⟩ := hf m w w' hw
  rw [hwrapped]
  exact ⟨hakin.trans (Error.akin_wrapAll _ contexts), hworld⟩

namespace StatusUpdate

/-- Answers of a hook that differ at most by contexts around an error. -/
def AkinAnswers (answer answer' : Signal × Context) : Prop :=
  answer.1.Akin answer'.1 ∧ answer.2 = answer'.2

/-- The hooks answer errors with one root alike, and look at nothing that can only be read
afterwards. -/
structure Indifferent (u : StatusUpdate) : Prop where
  wrapper : ∀ e, (u.wrapper e).Related World.QuietlySame Error.Akin (u.wrapper e)
  onError : ∀ hook, u.onError = some hook → ∀ span ctx e e', e.Akin e' →
    (hook span ctx e).Related World.QuietlySame AkinAnswers (hook span ctx e')
  onSuccess : ∀ hook, u.onSuccess = some hook → ∀ span ctx,
    (hook span ctx).Related World.QuietlySame AkinAnswers (hook span ctx)

def withWrapper (u : StatusUpdate) (f : ErrorWrapper) : StatusUpdate := { u with wrapper := f }

@[simp] theorem onError_withWrapper (u : StatusUpdate) (f : ErrorWrapper) :
    (u.withWrapper f).onError = u.onError := rfl

namespace Indifferent

variable {u : StatusUpdate} {f : ErrorWrapper} (hu : u.Indifferent) (hf : u.wrapper.WrapsMore f)
  (span : Option Span) (ctx : Context)
include hu

include hf in
/-- A hook that gets the error in further contexts answers alike. -/
theorem related_answerFailure (kind : String) (e : Error) :
    (u.answerFailure span ctx kind e).Related World.QuietlySame AkinAnswers
      ((u.withWrapper f).answerFailure span ctx kind e) := by
  unfold answerFailure
  rw [onError_withWrapper]
  refine (hf.related (hu.wrapper e)).bind fun e e' he ↦ ?_
  cases hhook : u.onError with
  | some hook => exact hu.onError hook hhook span ctx e e' he
  | none =>
    exact ((Act.related_log _ _).bind fun _ _ _ ↦ Act.related_pure rfl).bind fun s s' hs ↦
      Act.related_pure ⟨congrArg Signal.unwrapped hs, rfl⟩

theorem related_answerSuccess :
    (u.answerSuccess span ctx).Related World.QuietlySame AkinAnswers
      ((u.withWrapper f).answerSuccess span ctx) := by
  change (u.answerSuccess span ctx).Related _ _ (u.answerSuccess span ctx)
  unfold answerSuccess
  cases hhook : u.onSuccess with
  | some hook => exact hu.onSuccess hook hhook span ctx
  | none => exact Act.related_pure ⟨rfl, rfl⟩

include hf

theorem related_respond (state : State) (o : Object) (answer : Except Error Object) :
    (u.respond span ctx state o answer).Related World.QuietlySame Reply.Akin
      ((u.withWrapper f).respond span ctx state o answer) := by
  cases answer with
  | error e =>
    exact (hu.related_answerFailure hf span ctx _ e).bind fun _ _ h ↦
      Act.related_pure ⟨h.1, h.2, rfl⟩
  | ok written =>
    exact (hu.related_answerSuccess span ctx).bind fun _ _ h ↦ Act.related_pure ⟨h.1, h.2, rfl⟩

/-- The update with further contexts around its errors writes the same and replies alike. -/
theorem related_apply (state : State) :
    (u.apply span ctx state).Related World.QuietlySame Reply.Akin
      ((u.withWrapper f).apply span ctx state) := by
  intro m w w' hw
  have hnoted : (u.noted state.object w).QuietlySame ((u.withWrapper f).noted state.object w') := by
    change (u.noted state.object w).QuietlySame (u.noted state.object w')
    unfold noted
    cases (u.stale state.object.conditions).isEmpty with
    | true => exact hw
    | false => exact hw
  rw [apply_eq, apply_eq]
  refine (Act.related_persist _).bind (fun answer answer' hanswer ↦ ?_) m _ _ hnoted
  subst hanswer
  exact hu.related_respond hf span ctx state _ answer

/-- An update whose errors are wrapped in further contexts is like the update. -/
theorem alike_withWrapper : u.action.Alike (u.withWrapper f).action := fun span ctx state ↦
  Run.related_lift (hu.related_apply hf span ctx state)

end Indifferent

end StatusUpdate

namespace Pipeline

/-- In the second pipeline the errors of some status updates are wrapped in further contexts. All
other actions are the same, and look at nothing that can only be read afterwards. -/
inductive Rewraps : Pipeline → Pipeline → Prop
  | leaf {a : Action} (steady : a.Alike a) : Rewraps (.leaf a) (.leaf a)
  | update {u : StatusUpdate} {f : ErrorWrapper} (hooks : u.Indifferent)
      (wrapper : u.wrapper.WrapsMore f) : Rewraps (.leaf u.action) (.leaf (u.withWrapper f).action)
  | sequence (name : String) {ps qs : List Pipeline} (parts : List.Forall₂ Rewraps ps qs) :
      Rewraps (.sequence name ps) (.sequence name qs)
  | switch (name : String) {cs ds : List (Predicate × Pipeline)} {p q : Option Pipeline}
      (predicates : cs.map Prod.fst = ds.map Prod.fst)
      (cases : List.Forall₂ Rewraps (cs.map Prod.snd) (ds.map Prod.snd))
      (default : Option.Rel Rewraps p q) : Rewraps (.switch name cs p) (.switch name ds q)

variable {name : String} {p q : Pipeline}

/-- Sequences are alike if their parts are. -/
theorem alike_sequence {ps qs : List Pipeline}
    (h : List.Forall₂ (fun p q ↦ p.action.Alike q.action) ps qs) :
    (sequence name ps).action.Alike (sequence name qs).action := by
  unfold action
  rw [partActions_eq_map, partActions_eq_map]
  exact Action.alike_sequence name
    (List.forall₂_map_left_iff.2 (List.forall₂_map_right_iff.2 h))

theorem forall₂_caseAction {cs ds : List (Predicate × Pipeline)}
    (hpredicates : cs.map Prod.fst = ds.map Prod.fst)
    (hcases : List.Forall₂ (fun p q ↦ p.action.Alike q.action) (cs.map Prod.snd)
      (ds.map Prod.snd)) :
    List.Forall₂ Case.Alike (cs.map caseAction) (ds.map caseAction) := by
  induction cs generalizing ds with
  | nil =>
    obtain rfl := List.map_eq_nil_iff.1 hpredicates.symm
    exact .nil
  | cons c cs ih =>
    cases ds with
    | nil => cases hpredicates
    | cons d ds =>
      obtain ⟨predicate, p⟩ := c
      obtain ⟨predicate', q⟩ := d
      obtain ⟨hpredicate, hrest⟩ := List.cons.inj hpredicates
      obtain ⟨haction, hactions⟩ := List.forall₂_cons.1 hcases
      exact .cons ⟨hpredicate, haction⟩ (ih hrest hactions)

/-- Switches with the same predicates are alike if the parts they can run are. -/
theorem alike_switch {cs ds : List (Predicate × Pipeline)} {default default' : Option Pipeline}
    (hpredicates : cs.map Prod.fst = ds.map Prod.fst)
    (hcases : List.Forall₂ (fun p q ↦ p.action.Alike q.action) (cs.map Prod.snd)
      (ds.map Prod.snd))
    (hdefault : Option.Rel (fun p q ↦ p.action.Alike q.action) default default') :
    (switch name cs default).action.Alike (switch name ds default').action := by
  unfold action
  rw [caseActions_eq_map, caseActions_eq_map]
  refine Action.alike_switch name (forall₂_caseAction hpredicates hcases) ?_
  cases hdefault with
  | none => exact .none
  | some h => exact .some h

/-- Pipelines that differ by further contexts around the errors of their updates are alike. -/
theorem Rewraps.alike (h : Rewraps p q) : p.action.Alike q.action := by
  -- The parts of a composer and its default are reached by inductions of their own.
  induction h using Rewraps.rec
    (motive_2 := fun ps qs _ ↦ List.Forall₂ (fun p q ↦ p.action.Alike q.action) ps qs)
    (motive_3 := fun p q _ ↦ Option.Rel (fun p q ↦ p.action.Alike q.action) p q) with
  | leaf steady => exact steady
  | update hooks wrapper => exact hooks.alike_withWrapper wrapper
  | sequence name parts ih => exact alike_sequence ih
  | switch name predicates cases default ihCases ihDefault =>
    exact alike_switch predicates ihCases ihDefault
  | nil => exact .nil
  | cons _ _ ihHead ihTail => exact .cons ihHead ihTail
  | some _ ih => exact .some ih
  | none => exact .none

end Pipeline

end ControlLoop
