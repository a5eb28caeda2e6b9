import ControlLoop.Stamp

/-!
# Conditions

A condition is one observable aspect of an object's convergence. Its transition time belongs to its
status: it is filled in when the condition is first recorded and moves only with the status.
-/

namespace ControlLoop

inductive ConditionStatus where
  | affirmed
  | denied
  | unknown
deriving DecidableEq

namespace ConditionStatus

def text : ConditionStatus → String
  | .affirmed => "True"
  | .denied => "False"
  | .unknown => "Unknown"

def ofText? : String → Option ConditionStatus
  | "True" => some .affirmed
  | "False" => some .denied
  | "Unknown" => some .unknown
  | _ => none

def ofBool (b : Bool) : ConditionStatus := if b then .affirmed else .denied

end ConditionStatus

structure Condition where
  type : String
  status : ConditionStatus
  reason : String := ""
  message : String := ""
  observedGeneration : Int64 := 0
  lastTransition : Option Stamp := none
deriving DecidableEq

namespace Condition

/-- The condition as first recorded: without a time of its own it gets the clock's. -/
def stamped (c : Condition) (clock : Stamp) : Condition :=
  { c with lastTransition := some (c.lastTransition.getD clock) }

/-- The recorded condition `old` after `new` is recorded over it. -/
def revised (old new : Condition) (clock : Stamp) : Condition :=
  { type := old.type
    status := new.status
    reason := new.reason
    message := new.message
    observedGeneration := new.observedGeneration
    lastTransition :=
      if old.status = new.status then old.lastTransition
      else some (new.lastTransition.getD clock) }

/-- Whether recording `new` over `old` changes any of the fields that `new` decides. -/
def differs (old new : Condition) : Bool :=
  old.status ≠ new.status || old.reason ≠ new.reason || old.message ≠ new.message ||
    old.observedGeneration ≠ new.observedGeneration

@[simp] theorem type_stamped (c : Condition) (clock : Stamp) :
    (c.stamped clock).type = c.type := rfl

@[simp] theorem type_revised (old new : Condition) (clock : Stamp) :
    (old.revised new clock).type = old.type := rfl

theorem revised_eq_self_iff {old new : Condition} {clock : Stamp} :
    old.revised new clock = old ↔ old.differs new = false := by
  cases old
  simp only [revised, differs, mk.injEq, true_and, Bool.or_eq_false_iff, decide_eq_false_iff_not,
    Decidable.not_not]
  constructor
  · rintro ⟨h₁, h₂, h₃, h₄, -⟩
    exact ⟨⟨⟨h₁.symm, h₂.symm⟩, h₃.symm⟩, h₄.symm⟩
  · rintro ⟨⟨⟨h₁, h₂⟩, h₃⟩, h₄⟩
    exact ⟨h₁.symm, h₂.symm, h₃.symm, h₄.symm, by simp [h₁]⟩

end Condition

end ControlLoop
