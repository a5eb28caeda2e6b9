import ControlLoop.Proofs.Pipeline.Composition
import ControlLoop.Proofs.Run.Keeping
import ControlLoop.Proofs.StatusUpdate.Application

/-!
# Confined actions

The failure counts belong to the reconciler, and an action is confined if its runs leave them alone.
Composers are confined if what they run is, so a pipeline is confined if its leaves are. A status
update is confined if its hooks are.
-/

namespace ControlLoop

def Action.Confined (a : Action) : Prop :=
  ∀ span ctx state, (a.run span ctx state).Keeps World.failures

def Act.Confined {α : Type} (act : Act α) : Prop := ∀ m w, (act m w).2.failures = w.failures

/-- Confined acts one after the other are confined. -/
theorem Act.Confined.bind {α β : Type} {act : Act α} {f : α → Act β} (hact : act.Confined)
    (hf : ∀ a, (f a).Confined) : (act >>= f).Confined := fun m w ↦
  (hf (act m w).1 m (act m w).2).trans (hact m w)

theorem Act.confined_pure {α : Type} (a : α) : (pure a : Act α).Confined := fun _ _ ↦ rfl

/-- A pipeline of confined leaves is confined. -/
theorem Pipeline.confined_action {p : Pipeline} (h : ∀ a, Part (.leaf a) p → a.Confined) :
    p.action.Confined := by
  intro span ctx state
  rw [Run.keeps_iff_moves]
  refine moves_action (fun _ _ _ ↦ rfl) (fun a part span ctx state ↦ ?_) span ctx state
  rw [← Run.keeps_iff_moves]
  exact h a part span ctx state

/-- A write of an object counts no failure. -/
theorem Act.confined_persist (o : Object) : (Act.persist o).Confined := failures_persist o

namespace StatusUpdate

/-- The hooks of the update leave the failure counts alone. -/
structure Confined (u : StatusUpdate) : Prop where
  wrapper : ∀ e, (u.wrapper e).Confined
  onError : ∀ hook, u.onError = some hook → ∀ span ctx e, (hook span ctx e).Confined
  onSuccess : ∀ hook, u.onSuccess = some hook → ∀ span ctx, (hook span ctx).Confined

variable {u : StatusUpdate} (h : u.Confined) (span : Option Span) (ctx : Context)
include h

theorem Confined.answerFailure (kind : String) (e : Error) :
    (u.answerFailure span ctx kind e).Confined := by
  unfold StatusUpdate.answerFailure
  refine (h.wrapper e).bind fun wrapped ↦ ?_
  cases hhook : u.onError with
  | some hook => exact h.onError hook hhook span ctx wrapped
  | none => exact fun _ _ ↦ rfl

theorem Confined.answerSuccess : (u.answerSuccess span ctx).Confined := by
  unfold StatusUpdate.answerSuccess
  cases hhook : u.onSuccess with
  | some hook => exact h.onSuccess hook hhook span ctx
  | none => exact Act.confined_pure _

/-- An update whose hooks are confined leaves the failure counts alone, whatever the write
answers. -/
theorem Confined.apply (state : State) : (u.apply span ctx state).Confined := by
  intro m w
  have hnoted : (u.noted state.object w).failures = w.failures := by
    unfold noted
    split <;> rfl
  have hwrite : (Act.persist (u.objectAfter m.clock state.object) >>=
      u.respond span ctx state (u.objectAfter m.clock state.object)).Confined := by
    refine (Act.confined_persist _).bind fun answer ↦ ?_
    cases answer with
    | error e => exact (h.answerFailure span ctx _ e).bind fun _ ↦ Act.confined_pure _
    | ok written => exact (h.answerSuccess span ctx).bind fun _ ↦ Act.confined_pure _
  rw [apply_eq]
  exact (hwrite m (u.noted state.object w)).trans hnoted

/-- A status update with confined hooks is a confined action. -/
theorem Confined.action : u.action.Confined := fun span ctx state m w ↦ h.apply span ctx state m w

end StatusUpdate

end ControlLoop
