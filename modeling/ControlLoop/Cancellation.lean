import Std.Data.ExtTreeMap.Lemmas

/-!
# Cancellation

A handle cancels the contexts that carry its token. Handles are held under names; a name may be
given to a new handle, which drops the one before it. A dropped handle can no longer be used, but a
token once cancelled stays cancelled.
-/

namespace ControlLoop

/-- The handle's name and how many handles of that name were made before it. -/
structure CancelToken where
  handle : String
  serial : Nat
deriving DecidableEq

/-- The handles made under one name: whether each of those dropped was cancelled, oldest first, and
whether the one that is held, if any, is. -/
structure HandleHistory where
  dropped : List Bool := []
  held : Option Bool := none
deriving DecidableEq

namespace HandleHistory

def flags (h : HandleHistory) : List Bool := h.dropped ++ h.held.toList

def drop (h : HandleHistory) : HandleHistory := ⟨h.flags, none⟩

def issue (h : HandleHistory) : HandleHistory := ⟨h.flags, some false⟩

def cancel (h : HandleHistory) : HandleHistory := { h with held := h.held.map fun _ ↦ true }

def isCancelled (h : HandleHistory) (serial : Nat) : Bool := h.flags[serial]?.getD false

@[simp] theorem isCancelled_drop (h : HandleHistory) (serial : Nat) :
    h.drop.isCancelled serial = h.isCancelled serial := by
  simp [isCancelled, drop, flags]

/-- A new handle is not cancelled and changes no other. -/
theorem isCancelled_issue (h : HandleHistory) (serial : Nat) :
    h.issue.isCancelled serial = h.isCancelled serial := by
  simp only [isCancelled, issue, flags, Option.toList_some, List.append_assoc]
  by_cases hs : serial < (h.dropped ++ h.held.toList).length
  · rw [← List.append_assoc, List.getElem?_append_left hs]
  · rw [← List.append_assoc, List.getElem?_append_right (by omega)]
    rw [List.getElem?_eq_none (by omega : (h.dropped ++ h.held.toList).length ≤ serial)]
    cases serial - (h.dropped ++ h.held.toList).length <;> simp

/-- Only the handle that is held can be cancelled. -/
theorem isCancelled_cancel (h : HandleHistory) (serial : Nat) :
    h.cancel.isCancelled serial =
      (h.isCancelled serial || (h.held.isSome && serial == h.dropped.length)) := by
  obtain ⟨dropped, held⟩ := h
  cases held with
  | none => simp [isCancelled, cancel, flags]
  | some b =>
    simp only [isCancelled, cancel, flags, Option.map_some, Option.toList_some, Option.isSome_some,
      Bool.true_and]
    by_cases hlt : serial < dropped.length
    · rw [List.getElem?_append_left hlt, List.getElem?_append_left hlt]
      simp [Nat.ne_of_lt hlt]
    · rw [List.getElem?_append_right (by omega), List.getElem?_append_right (by omega)]
      by_cases heq : serial = dropped.length
      · simp [heq]
      · have hne : serial - dropped.length ≠ 0 := by omega
        rw [List.getElem?_eq_none (by simp; omega), List.getElem?_eq_none (by simp; omega)]
        simp [heq]

end HandleHistory

structure Handles where
  histories : Std.ExtTreeMap String HandleHistory

namespace Handles

def empty : Handles := ⟨∅⟩

instance : EmptyCollection Handles := ⟨empty⟩

variable (hs : Handles) (name : String)

def history : HandleHistory := hs.histories.getD name {}

def update (change : HandleHistory → HandleHistory) : Handles :=
  ⟨hs.histories.insert name (change (hs.history name))⟩

/-- The token of the next handle under a name. -/
def nextToken : CancelToken := ⟨name, (hs.history name).flags.length⟩

/-- Makes a handle for the next token and holds it under the name. -/
def issue : Handles := hs.update name .issue

def cancel : Handles := hs.update name .cancel

def drop : Handles := hs.update name .drop

def isHeld : Bool := (hs.history name).held.isSome

/-- Whether the handle held under the name was cancelled. -/
def isHandleCancelled : Bool := (hs.history name).held == some true

def isCancelled (token : CancelToken) : Bool := (hs.history token.handle).isCancelled token.serial

theorem history_update (change : HandleHistory → HandleHistory) (other : String) :
    (hs.update name change).history other =
      if name = other then change (hs.history name) else hs.history other := by
  simp only [history, update, Std.ExtTreeMap.getD_insert, Std.LawfulEqOrd.compare_eq_iff_eq]

@[simp] theorem isCancelled_empty (token : CancelToken) :
    (∅ : Handles).isCancelled token = false := by
  change (Std.ExtTreeMap.getD (∅ : Std.ExtTreeMap String HandleHistory) token.handle {}).isCancelled
    token.serial = false
  simp [HandleHistory.isCancelled, HandleHistory.flags]

theorem isCancelled_update {change : HandleHistory → HandleHistory} {token : CancelToken}
    (h : ∀ history, (change history).isCancelled token.serial = history.isCancelled token.serial) :
    (hs.update name change).isCancelled token = hs.isCancelled token := by
  simp only [isCancelled, history_update]
  split
  · next hn => rw [h, hn]
  · rfl

/-- A dropped handle leaves its contexts as they are. -/
@[simp] theorem isCancelled_drop (token : CancelToken) :
    (hs.drop name).isCancelled token = hs.isCancelled token :=
  hs.isCancelled_update name fun history ↦ history.isCancelled_drop token.serial

/-- A new handle leaves all contexts as they are. -/
@[simp] theorem isCancelled_issue (token : CancelToken) :
    (hs.issue name).isCancelled token = hs.isCancelled token :=
  hs.isCancelled_update name fun history ↦ history.isCancelled_issue token.serial

end Handles

end ControlLoop
