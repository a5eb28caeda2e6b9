import ControlLoop.Condition.Set
import Mathlib.Data.List.Find

/-!
# Recording conditions

A set of conditions is known by the order of its types and by what is found under each of them.
Recording works on each type by itself: what is found under a type after a list of conditions has
been recorded is what was found before with the conditions of that type recorded over it.
-/

namespace ControlLoop

namespace Condition

/-- What is found under a type after a condition of the type is recorded. -/
def recorded (clock : Stamp) (old : Option Condition) (c : Condition) : Condition :=
  match old with
  | some e => e.revised c clock
  | none => c.stamped clock

def recordedAll (clock : Stamp) (old : Option Condition) (cs : List Condition) :
    Option Condition :=
  cs.foldl (fun old c ↦ some (recorded clock old c)) old

end Condition

namespace Conditions

variable {s t : Conditions} {type : String} {clock : Stamp} {c : Condition}
  {cs : List Condition} {types : List String}

/-- Entries with the same types in the same order, each found the same, are the same. -/
theorem entries_eq_of_find? {es fs : List Condition} (hnodup : (es.map Condition.type).Nodup)
    (htypes : es.map Condition.type = fs.map Condition.type)
    (hfind : ∀ type, es.find? (·.type = type) = fs.find? (·.type = type)) : es = fs := by
  induction es generalizing fs with
  | nil => exact (List.map_eq_nil_iff.1 htypes.symm).symm
  | cons e es ih =>
    cases fs with
    | nil => exact nomatch htypes
    | cons f fs =>
      obtain ⟨htype, htail⟩ := List.cons.inj htypes
      obtain ⟨hnot, hrest⟩ := List.nodup_cons.1 hnodup
      have hhead : e = f := by
        have h := hfind e.type
        rw [List.find?_cons_of_pos (by simp), List.find?_cons_of_pos (by simp [htype])] at h
        exact Option.some.inj h
      subst hhead
      rw [ih hrest htail]
      intro type
      by_cases h : e.type = type
      · have hnone (l : List Condition) (hl : e.type ∉ l.map Condition.type) :
            l.find? (·.type = type) = none := by
          rw [List.find?_eq_none]
          intro g hg hgtype
          exact hl (List.mem_map.2 ⟨g, hg, (of_decide_eq_true hgtype).trans h.symm⟩)
        rw [hnone es hnot, hnone fs (htail ▸ hnot)]
      · have hskip := hfind type
        rwa [List.find?_cons_of_neg (by simp [h]), List.find?_cons_of_neg (by simp [h])] at hskip

/-- Sets with the same types in the same order and the same entry of each are the same. -/
theorem eq_of_types_of_find? (htypes : s.types = t.types)
    (hfind : ∀ type, s.find? type = t.find? type) : s = t :=
  ext (entries_eq_of_find? s.nodup htypes hfind)

theorem find?_upsert (es : List Condition) :
    (upsert c clock es).find? (·.type = type) =
      if c.type = type then some (Condition.recorded clock (es.find? (·.type = type)) c)
      else es.find? (·.type = type) := by
  induction es with
  | nil => by_cases h : c.type = type <;> simp [upsert, Condition.recorded, h]
  | cons e es ih =>
    by_cases he : e.type = c.type
    · by_cases h : c.type = type <;> simp [upsert, Condition.recorded, he, h]
    · simp only [upsert, he, if_false]
      by_cases htype : e.type = type
      · have hc : c.type ≠ type := fun h ↦ he (htype.trans h.symm)
        simp [htype, hc]
      · rw [List.find?_cons_of_neg (by simp [htype]), ih,
          List.find?_cons_of_neg (by simp [htype])]

/-- Setting a condition records it over what was found of its type, and touches no other type. -/
theorem find?_set :
    (s.set c clock).find? type =
      if c.type = type then some (Condition.recorded clock (s.find? type) c)
      else s.find? type :=
  find?_upsert s.entries

/-- What is found of a type depends on the conditions of that type alone, in their order. -/
theorem find?_setAll :
    (s.setAll clock cs).find? type =
      Condition.recordedAll clock (s.find? type) (cs.filter (·.type = type)) := by
  induction cs generalizing s with
  | nil => rfl
  | cons c cs ih =>
    have hfirst : (s.setAll clock (c :: cs)).find? type =
        ((s.set c clock).setAll clock cs).find? type := rfl
    rw [hfirst, ih, find?_set]
    by_cases h : c.type = type
    · rw [if_pos h, List.filter_cons_of_pos (by simp [h])]
      rfl
    · rw [if_neg h, List.filter_cons_of_neg (by simp [h])]

/-- A set has the types that it had and those that have been set. -/
theorem mem_types_setAll :
    type ∈ (s.setAll clock cs).types ↔ type ∈ s.types ∨ ∃ c ∈ cs, c.type = type := by
  induction cs generalizing s with
  | nil => simp [setAll]
  | cons c cs ih =>
    have hset : type ∈ (s.set c clock).types ↔ type ∈ s.types ∨ c.type = type := by
      rw [types_set]
      split
      · next hmem => exact ⟨.inl, fun h ↦ h.elim id fun h ↦ h ▸ hmem⟩
      · simp [eq_comm]
    change type ∈ ((s.set c clock).setAll clock cs).types ↔ _
    rw [ih, hset]
    simp [or_assoc]

/-- Types that are not there are appended in the order in which they are first recorded. -/
theorem types_setAll :
    (s.setAll clock cs).types =
      s.types ++ ((cs.map Condition.type).filter (· ∉ s.types)).eraseDups := by
  induction cs generalizing s with
  | nil => exact (List.append_nil s.types).symm
  | cons c cs ih =>
    change ((s.set c clock).setAll clock cs).types = _
    rw [ih, List.map_cons]
    by_cases hc : c.type ∈ s.types
    · have hset : (s.set c clock).types = s.types := by rw [types_set, if_pos hc]
      rw [hset, List.filter_cons_of_neg (by simpa using hc)]
    · have hset : (s.set c clock).types = s.types ++ [c.type] := by rw [types_set, if_neg hc]
      have hrest : (cs.map Condition.type).filter (· ∉ s.types ++ [c.type]) =
          ((cs.map Condition.type).filter (· ∉ s.types)).filter fun type ↦ !type == c.type := by
        rw [List.filter_filter]
        apply List.filter_congr
        intro type _
        simp [Bool.and_comm, ← Bool.beq_eq_decide_eq]
      rw [hset, List.filter_cons_of_pos (by simpa using hc), List.eraseDups_cons, hrest,
        List.append_assoc]
      rfl

/-- Recording conditions of types that are there keeps the types as they are. -/
theorem types_setAll_of_mem (h : ∀ c ∈ cs, c.type ∈ s.types) :
    (s.setAll clock cs).types = s.types := by
  induction cs generalizing s with
  | nil => rfl
  | cons c cs ih =>
    obtain ⟨hc, hcs⟩ := List.forall_mem_cons.1 h
    have hset : (s.set c clock).types = s.types := by rw [types_set, if_pos hc]
    change ((s.set c clock).setAll clock cs).types = s.types
    rw [ih (by rwa [hset]), hset]

/-- Removing types leaves the others in their order. -/
theorem types_removeAll : (s.removeAll types).types = s.types.filter (· ∉ types) := by
  induction types generalizing s with
  | nil => exact (List.filter_eq_self.2 fun _ _ ↦ by simp).symm
  | cons type types ih =>
    have hremove : (s.remove type).types = s.types.filter (· ≠ type) := by
      simp only [Conditions.types, entries_remove, without, List.filter_map]
      rfl
    change ((s.remove type).removeAll types).types = _
    rw [ih, hremove, List.filter_filter]
    apply List.filter_congr
    intro a _
    simp [Bool.and_comm]

theorem find?_remove (removed : String) :
    (s.remove removed).find? type = if type = removed then none else s.find? type := by
  change (s.entries.filter (·.type ≠ removed)).find? (·.type = type) = _
  rw [List.find?_filter]
  by_cases h : type = removed
  · rw [if_pos h, List.find?_eq_none]
    intro e _
    simp [h]
  · rw [if_neg h]
    refine List.find?_congr fun e _ ↦ ?_
    by_cases he : e.type = type
    · simp [he, h]
    · simp [he]

theorem find?_removeAll :
    (s.removeAll types).find? type = if type ∈ types then none else s.find? type := by
  induction types generalizing s with
  | nil => rfl
  | cons removed types ih =>
    change ((s.remove removed).removeAll types).find? type = _
    rw [ih, find?_remove]
    by_cases h : type = removed
    · simp [h]
    · simp [h]

theorem find?_of_mem {e : Condition} (h : e ∈ s.entries) : s.find? e.type = some e := by
  have hpairwise : s.entries.Pairwise fun e f ↦ e.type ≠ f.type := List.pairwise_map.1 s.nodup
  obtain ⟨before, after, hentries⟩ := List.append_of_mem h
  rw [find?, hentries, List.find?_append]
  rw [hentries, List.pairwise_append] at hpairwise
  have hnone : before.find? (·.type = e.type) = none := by
    rw [List.find?_eq_none]
    intro f hf
    simpa using hpairwise.2.2 f hf e (List.mem_cons_self ..)
  rw [hnone]
  simp

end Conditions

end ControlLoop
