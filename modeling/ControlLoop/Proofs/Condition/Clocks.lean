import ControlLoop.Object.Basic
import Mathlib.Data.List.Forall2

/-!
# Conditions under two clocks

Conditions that are recorded at two times come out the same up to the clock: where one has taken its
transition time from the first clock the other has taken it from the second, and nothing else
differs. Recording keeps this, since a transition time never decides what is recorded.
-/

namespace ControlLoop

variable {clock later : Stamp}

namespace Condition

variable {e f : Condition}

/-- The conditions differ at most in their transition times, and then these are the clocks'. -/
def EqUpTo (clock later : Stamp) (e f : Condition) : Prop :=
  e = f ∨ e.lastTransition = some clock ∧ f = { e with lastTransition := some later }

namespace EqUpTo

theorem refl (e : Condition) : e.EqUpTo clock later e := .inl rfl

theorem type_eq (h : e.EqUpTo clock later f) : e.type = f.type := by
  rcases h with rfl | ⟨-, rfl⟩
  · rfl
  · rfl

theorem status_eq (h : e.EqUpTo clock later f) : e.status = f.status := by
  rcases h with rfl | ⟨-, rfl⟩
  · rfl
  · rfl

/-- A new entry differs by the clock only where its transition time is taken from the clock. -/
theorem stamped (c : Condition) : (c.stamped clock).EqUpTo clock later (c.stamped later) := by
  unfold Condition.stamped
  cases htime : c.lastTransition with
  | none => exact .inr ⟨rfl, rfl⟩
  | some time => exact .inl rfl

/-- Entries that differ by the clock still do after the same condition has been recorded in both. -/
theorem revised (h : e.EqUpTo clock later f) (c : Condition) :
    (e.revised c clock).EqUpTo clock later (f.revised c later) := by
  unfold Condition.revised
  rw [h.type_eq, h.status_eq]
  by_cases hkept : f.status = c.status
  · rw [if_pos hkept, if_pos hkept]
    rcases h with rfl | ⟨htime, rfl⟩
    · exact .refl _
    · exact .inr ⟨htime, rfl⟩
  · rw [if_neg hkept, if_neg hkept]
    cases c.lastTransition with
    | none => exact .inr ⟨rfl, rfl⟩
    | some time => exact .refl _

end EqUpTo

end Condition

namespace Conditions

variable {s t : Conditions} {es fs : List Condition}

/-- Recording one condition in two lists keeps them the same but for the clocks. -/
theorem eqUpTo_upsert (h : List.Forall₂ (Condition.EqUpTo clock later) es fs) (c : Condition) :
    List.Forall₂ (Condition.EqUpTo clock later) (upsert c clock es) (upsert c later fs) := by
  induction h with
  | nil => exact .cons (.stamped c) .nil
  | cons hhead htail ih =>
    unfold upsert
    rw [hhead.type_eq]
    split
    · exact .cons (hhead.revised c) htail
    · exact .cons hhead ih

/-- The same entries in the same order, up to the clocks. -/
def EqUpTo (clock later : Stamp) (s t : Conditions) : Prop :=
  List.Forall₂ (Condition.EqUpTo clock later) s.entries t.entries

theorem EqUpTo.refl (s : Conditions) : s.EqUpTo clock later s := by
  apply List.forall₂_same.2
  intro e _
  exact .refl e

/-- What is recorded at two clocks over sets that are the same but for them is the same but for
them. -/
theorem EqUpTo.setAll (h : s.EqUpTo clock later t) (conditions : List Condition) :
    (s.setAll clock conditions).EqUpTo clock later (t.setAll later conditions) := by
  induction conditions generalizing s t with
  | nil => exact h
  | cons c cs ih =>
    have hset : (s.set c clock).EqUpTo clock later (t.set c later) := eqUpTo_upsert h c
    exact ih hset

end Conditions

/-- The same objects but for what their conditions have taken from the clocks. -/
structure Object.EqUpTo (clock later : Stamp) (o p : Object) : Prop where
  kind : o.kind = p.kind
  metadata : o.metadata = p.metadata
  conditions : o.conditions.EqUpTo clock later p.conditions
  spec : o.spec = p.spec

end ControlLoop
