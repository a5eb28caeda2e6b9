import ControlLoop.Object.Wire
import ControlLoop.Proofs.Condition.Recording
import Mathlib.Data.List.Dedup
import Mathlib.Data.List.Induction

/-!
# Sets read from lists

A set that is read from a list has of each type the last condition in the list, and its types stand
in the order of these. A list without repeated types is read as it is. The wire form of a set is
read as the list of its conditions is.
-/

namespace ControlLoop

namespace Conditions

variable {s : Conditions} {c : Condition} {cs : List Condition} {type : String}

theorem types_remove (removed : String) :
    (s.remove removed).types = s.types.filter (· ≠ removed) := by
  rw [Conditions.types, Conditions.types, entries_remove, without, List.filter_map]
  rfl

/-- A replaced condition is the last of the set. -/
theorem types_replace : (s.replace c).types = s.types.filter (· ≠ c.type) ++ [c.type] := by
  rw [← types_remove, Conditions.types, entries_replace, List.map_append]
  rfl

/-- Replacing a condition touches no other type. -/
theorem find?_replace :
    (s.replace c).find? type = if c.type = type then some c else s.find? type := by
  have hremove : (s.remove c.type).find? type = if type = c.type then none else s.find? type :=
    s.find?_remove c.type
  rw [find?, entries_remove] at hremove
  rw [find?, entries_replace, List.find?_append, hremove]
  by_cases h : c.type = type
  · simp [h]
  · have h' : ¬ type = c.type := fun h' ↦ h h'.symm
    simp [h, h']

/-- A list is read from the left, so its last item is put last. -/
theorem ofList_concat : ofList (cs ++ [c]) = (ofList cs).replace c := by
  rw [ofList, List.foldl_append]
  rfl

/-- Of several items of one type the last one is kept. -/
theorem find?_ofList : (ofList cs).find? type = (cs.filter (·.type = type)).getLast? := by
  induction cs using List.reverseRecOn with
  | nil => rfl
  | append_singleton cs c ih =>
    rw [ofList_concat, find?_replace, ih, List.filter_append, List.getLast?_append]
    by_cases h : c.type = type <;> simp [h]

/-- A new last item takes the place of its earlier occurrences. -/
theorem dedup_concat (types : List String) :
    (types ++ [type]).dedup = types.dedup.filter (· ≠ type) ++ [type] := by
  induction types with
  | nil => rfl
  | cons first types ih =>
    rw [List.cons_append]
    by_cases hlater : first ∈ types
    · rw [List.dedup_cons_of_mem (List.mem_append_left _ hlater), ih,
        List.dedup_cons_of_mem hlater]
    · rw [List.dedup_cons_of_notMem hlater]
      by_cases h : first = type
      · rw [List.dedup_cons_of_mem (by simp [h]), ih, List.filter_cons_of_neg (by simp [h])]
      · rw [List.dedup_cons_of_notMem (by simp [h, hlater]), ih,
          List.filter_cons_of_pos (by simp [h]), List.cons_append]

/-- The types stand in the order of their last occurrences. -/
theorem types_ofList : (ofList cs).types = (cs.map Condition.type).dedup := by
  induction cs using List.reverseRecOn with
  | nil => rfl
  | append_singleton cs c ih =>
    rw [ofList_concat, types_replace, ih, List.map_append, List.map_singleton, dedup_concat]

theorem mem_of_mem_ofList {e : Condition} (h : e ∈ (ofList cs).entries) : e ∈ cs := by
  induction cs using List.reverseRecOn with
  | nil => exact h
  | append_singleton cs c ih =>
    rw [ofList_concat, entries_replace, List.mem_append] at h
    rw [List.mem_append]
    rcases h with hkept | hnew
    · exact .inl (ih (List.mem_of_mem_filter hkept))
    · exact .inr hnew

/-- A list with one item for each type is read as it is. -/
theorem entries_ofList (h : (cs.map Condition.type).Nodup) : (ofList cs).entries = cs := by
  induction cs using List.reverseRecOn with
  | nil => rfl
  | append_singleton cs c ih =>
    rw [List.map_append, List.nodup_append] at h
    obtain ⟨hcs, -, hnew⟩ := h
    rw [ofList_concat, entries_replace, ih hcs, without, List.filter_eq_self.2]
    intro e he
    simpa using hnew e.type (List.mem_map_of_mem he) c.type

/-- A set that is written as a list is read back as it was. -/
theorem ofList_entries : ofList s.entries = s := by
  apply ext
  exact entries_ofList s.nodup

end Conditions

/-- The conditions that an array holds, if it holds nothing else. -/
def Wire.listed? (j : Json) : Option (List Condition) := j.array?.bind (·.mapM decodeCondition)

/-- Reading conditions is reading the items of an array and putting them into a set. -/
theorem Wire.decodeConditions_eq (j : Json) : decodeConditions j = (listed? j).map .ofList := by
  rw [decodeConditions, listed?]
  cases j.array? with
  | none => rfl
  | some items =>
    change (items.mapM decodeCondition).bind _ = (items.mapM decodeCondition).map _
    rw [Option.map_eq_bind]
    rfl

end ControlLoop
