import ControlLoop.Condition.Basic

/-!
# Sets of conditions

A set holds at most one condition of each type, in the order in which the types were first recorded.
Setting a condition revises the entry of its type in place or appends a new one; both report whether
anything changed. A list is read from the left, a later condition taking the place of an earlier one
of its type at the end of the set.
-/

namespace ControlLoop

structure Conditions where
  entries : List Condition
  nodup : (entries.map Condition.type).Nodup
deriving DecidableEq

namespace Conditions

variable (type : String) (c : Condition) (clock : Stamp)

/-- The entries after `c` is recorded among them. -/
def upsert : List Condition → List Condition
  | [] => [c.stamped clock]
  | e :: es => if e.type = c.type then e.revised c clock :: es else e :: upsert es

/-- The entries of other types. -/
def without (entries : List Condition) : List Condition :=
  entries.filter (·.type ≠ type)

theorem types_upsert (entries : List Condition) :
    (upsert c clock entries).map Condition.type =
      if c.type ∈ entries.map Condition.type then entries.map Condition.type
      else entries.map Condition.type ++ [c.type] := by
  induction entries with
  | nil => simp [upsert]
  | cons e es ih =>
    by_cases h : e.type = c.type
    · simp [upsert, h]
    · have h' : ¬ c.type = e.type := fun hc ↦ h hc.symm
      simp only [upsert, h, if_false, List.map_cons, ih, List.mem_cons, h', false_or]
      split <;> simp

theorem nodup_upsert {entries : List Condition} (h : (entries.map Condition.type).Nodup) :
    ((upsert c clock entries).map Condition.type).Nodup := by
  rw [types_upsert]
  split
  · exact h
  · next hc =>
    rw [List.nodup_append]
    exact ⟨h, by simp, fun a ha b hb hab ↦ hc (by simp_all)⟩

theorem nodup_without {entries : List Condition} (h : (entries.map Condition.type).Nodup) :
    ((without type entries).map Condition.type).Nodup :=
  (List.Sublist.map _ List.filter_sublist).nodup h

theorem type_notMem_without (entries : List Condition) :
    type ∉ (without type entries).map Condition.type := by
  simp [without]

def empty : Conditions := ⟨[], by simp⟩

instance : EmptyCollection Conditions := ⟨empty⟩

variable (s : Conditions)

def find? : Option Condition := s.entries.find? (·.type = type)

def status? : Option ConditionStatus := (s.find? type).map Condition.status

def isAffirmed : Bool := s.status? type == some .affirmed

def isDenied : Bool := s.status? type == some .denied

def contains : Bool := (s.find? type).isSome

def types : List String := s.entries.map Condition.type

def size : Nat := s.entries.length

def isEmpty : Bool := s.entries.isEmpty

/-- Records a condition at the time the clock shows. -/
def set : Conditions := ⟨upsert c clock s.entries, nodup_upsert c clock s.nodup⟩

/-- Whether recording the condition changes the set. -/
def setChanges : Bool :=
  match s.find? c.type with
  | none => true
  | some e => e.differs c

def remove : Conditions := ⟨without type s.entries, nodup_without type s.nodup⟩

/-- Appends a condition in place of the entry of its type. -/
def replace : Conditions :=
  ⟨without c.type s.entries ++ [c], by
    rw [List.map_append, List.nodup_append]
    refine ⟨nodup_without _ s.nodup, by simp, fun a ha b hb hab ↦ ?_⟩
    refine type_notMem_without c.type s.entries ?_
    simp_all⟩

def ofList (conditions : List Condition) : Conditions :=
  conditions.foldl (fun s c ↦ s.replace c) ∅

/-- Records several conditions, the first one first. -/
def setAll (conditions : List Condition) : Conditions :=
  conditions.foldl (fun s c ↦ s.set c clock) s

/-- Removes the entries of several types. -/
def removeAll (types : List String) : Conditions :=
  types.foldl (fun s type ↦ s.remove type) s

@[simp] theorem entries_set : (s.set c clock).entries = upsert c clock s.entries := rfl

@[simp] theorem entries_remove : (s.remove type).entries = without type s.entries := rfl

@[simp] theorem entries_replace : (s.replace c).entries = without c.type s.entries ++ [c] := rfl

theorem types_set :
    (s.set c clock).types = if c.type ∈ s.types then s.types else s.types ++ [c.type] :=
  types_upsert c clock s.entries

@[ext] theorem ext {s t : Conditions} (h : s.entries = t.entries) : s = t := by
  cases s
  cases t
  simpa using h

end Conditions

end ControlLoop
