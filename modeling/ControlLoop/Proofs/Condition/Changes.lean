import ControlLoop.Proofs.Condition.Reading

/-!
# Changes of a set of conditions

A set of conditions comes about by reading lists, recording conditions and removing types, in any
order. Whatever has become of it, a type stands for one entry; recording revises that entry where it
stands or appends a new one, removing takes it out, and both report a change exactly if the set is
not the same as before. No change touches what is found under other types, so what is found under a
type follows from the changes that concern it.
-/

namespace ControlLoop

namespace Condition

/-- How an entry comes about when `new` is recorded over `old`. -/
structure Revises (old new : Condition) (clock : Stamp) (e : Condition) : Prop where
  type_eq : e.type = old.type
  status_eq : e.status = new.status
  reason_eq : e.reason = new.reason
  message_eq : e.message = new.message
  generation_eq : e.observedGeneration = new.observedGeneration
  time_kept : old.status = new.status → e.lastTransition = old.lastTransition
  time_moved : old.status ≠ new.status → e.lastTransition = some (new.lastTransition.getD clock)

/-- An entry is revised field by field, and its time moves with its status only. -/
theorem revises_revised (old new : Condition) (clock : Stamp) :
    old.Revises new clock (old.revised new clock) where
  type_eq := rfl
  status_eq := rfl
  reason_eq := rfl
  message_eq := rfl
  generation_eq := rfl
  time_kept h := if_pos h
  time_moved h := if_neg h

end Condition

namespace Conditions

inductive Change where
  | collect (cs : List Condition)
  | read (j : Json)
  | set (c : Condition) (clock : Stamp)
  | remove (type : String)

/-- What is found under a type after a change, by what was found before it. -/
def Change.found (type : String) (old : Option Condition) : Change → Option Condition
  | .collect cs => (cs.filter (·.type = type)).getLast?
  | .read j => (Wire.listed? j).elim old fun cs ↦ (cs.filter (·.type = type)).getLast?
  | .set c clock => if c.type = type then some (Condition.recorded clock old c) else old
  | .remove removed => if type = removed then none else old

/-- The set after a change; what cannot be read changes nothing. -/
def change (s : Conditions) : Change → Conditions
  | .collect cs => .ofList cs
  | .read j => (Wire.decodeConditions j).getD s
  | .set c clock => s.set c clock
  | .remove type => s.remove type

/-- The set that changes lead to, one after the other, from the empty set on. -/
def after (changes : List Change) : Conditions := changes.foldl change ∅

/-- What recording and removing do to a set. Recording reports `setChanges`, and removing whether
the set `contains` the type. -/
structure Exact (s : Conditions) : Prop where
  distinct : s.types.Nodup
  find?_eq_some_iff : ∀ type e, s.find? type = some e ↔ e ∈ s.entries ∧ e.type = type
  set_present : ∀ c clock before e after, s.entries = before ++ e :: after → e.type = c.type →
    ∃ e', e.Revises c clock e' ∧ (s.set c clock).entries = before ++ e' :: after
  set_absent : ∀ c clock, c.type ∉ s.types →
    (s.set c clock).entries = s.entries ++ [c.stamped clock]
  remove_present : ∀ before e after, s.entries = before ++ e :: after →
    (s.remove e.type).entries = before ++ after
  setChanges_iff : ∀ c clock, s.setChanges c = true ↔ s.set c clock ≠ s
  contains_iff : ∀ type, s.contains type = true ↔ s.remove type ≠ s

section

variable {s : Conditions} {c e : Condition} {clock : Stamp} {type : String}
  {before after : List Condition}

/-- A condition whose type is there is revised in its place. -/
theorem upsert_append_cons (hbefore : c.type ∉ before.map Condition.type)
    (htype : e.type = c.type) :
    upsert c clock (before ++ e :: after) = before ++ e.revised c clock :: after := by
  induction before with
  | nil => rw [List.nil_append, upsert, if_pos htype, List.nil_append]
  | cons f before ih =>
    rw [List.map_cons, List.mem_cons, not_or] at hbefore
    rw [List.cons_append, upsert, if_neg (Ne.symm hbefore.1), ih hbefore.2, List.cons_append]

/-- A condition whose type is not there is put last. -/
theorem upsert_of_notMem {es : List Condition} (h : c.type ∉ es.map Condition.type) :
    upsert c clock es = es ++ [c.stamped clock] := by
  induction es with
  | nil => rfl
  | cons e es ih =>
    rw [List.map_cons, List.mem_cons, not_or] at h
    rw [upsert, if_neg (Ne.symm h.1), ih h.2, List.cons_append]

/-- No other entry has the type of a given one. -/
theorem type_notMem_of_entries_eq (h : s.entries = before ++ e :: after) :
    e.type ∉ before.map Condition.type ∧ e.type ∉ after.map Condition.type := by
  have hnodup := s.nodup
  rw [h, List.map_append, List.map_cons, List.nodup_middle, List.nodup_cons, List.mem_append,
    not_or] at hnodup
  exact hnodup.1

theorem entries_set_present (h : s.entries = before ++ e :: after) (htype : e.type = c.type) :
    (s.set c clock).entries = before ++ e.revised c clock :: after := by
  rw [entries_set, h]
  apply upsert_append_cons _ htype
  rw [← htype]
  exact (type_notMem_of_entries_eq h).1

theorem without_of_notMem {es : List Condition} (h : type ∉ es.map Condition.type) :
    without type es = es := by
  apply List.filter_eq_self.2
  intro f hf
  rw [decide_eq_true_eq]
  rintro rfl
  exact h (List.mem_map_of_mem hf)

theorem entries_remove_present (h : s.entries = before ++ e :: after) :
    (s.remove e.type).entries = before ++ after := by
  obtain ⟨hbefore, hafter⟩ := type_notMem_of_entries_eq h
  have hsplit : without e.type (before ++ e :: after) =
      without e.type before ++ without e.type after := by
    rw [without, List.filter_append, List.filter_cons_of_neg (by simp)]
    rfl
  rw [entries_remove, h, hsplit, without_of_notMem hbefore, without_of_notMem hafter]

/-- A type has at most one entry, so the one that is found is any that is there. -/
theorem find?_eq_some_iff : s.find? type = some e ↔ e ∈ s.entries ∧ e.type = type := by
  constructor
  · intro hfind
    exact ⟨List.mem_of_find?_eq_some hfind, by simpa using List.find?_some hfind⟩
  · rintro ⟨hmem, rfl⟩
    exact find?_of_mem hmem

theorem find?_eq_none_iff : s.find? type = none ↔ type ∉ s.types := by
  simp [find?, Conditions.types]

/-- Setting reports a change exactly if it makes one. -/
theorem setChanges_iff : s.setChanges c = true ↔ s.set c clock ≠ s := by
  cases hfind : s.find? c.type with
  | none =>
    have hset : upsert c clock s.entries = s.entries ++ [c.stamped clock] :=
      upsert_of_notMem (find?_eq_none_iff.1 hfind)
    have hne : s.set c clock ≠ s := by
      intro heq
      have hlength := congrArg (fun t : Conditions ↦ t.entries.length) heq
      simp [hset] at hlength
    simp [setChanges, hfind, hne]
  | some e =>
    obtain ⟨hmem, htype⟩ := find?_eq_some_iff.1 hfind
    obtain ⟨before, after, hentries⟩ := List.append_of_mem hmem
    have hsame : s.set c clock = s ↔ e.revised c clock = e := by
      rw [Conditions.ext_iff, entries_set_present hentries htype, hentries]
      simp
    rw [ne_eq, hsame, Condition.revised_eq_self_iff, setChanges, hfind, Bool.not_eq_false]

/-- Removing reports a change exactly if it makes one. -/
theorem contains_iff : s.contains type = true ↔ s.remove type ≠ s := by
  cases hfind : s.find? type with
  | none =>
    have hsame : s.remove type = s := ext (without_of_notMem (find?_eq_none_iff.1 hfind))
    simp [contains, hfind, hsame]
  | some e =>
    have hne : s.remove type ≠ s := by
      intro heq
      have hgone : (s.remove type).find? type = none := (s.find?_remove type).trans (if_pos rfl)
      rw [heq, hfind] at hgone
      cases hgone
    simp [contains, hfind, hne]

/-- Every set of conditions is read and changed as described. -/
theorem exact (s : Conditions) : s.Exact where
  distinct := s.nodup
  find?_eq_some_iff _ _ := find?_eq_some_iff
  set_present c clock _ e _ hentries htype :=
    ⟨e.revised c clock, e.revises_revised c clock, entries_set_present hentries htype⟩
  set_absent _ _ habsent := upsert_of_notMem habsent
  remove_present _ _ _ hentries := entries_remove_present hentries
  setChanges_iff _ _ := setChanges_iff
  contains_iff _ := contains_iff

/-- One change, seen from one type. -/
theorem find?_change (s : Conditions) (change : Change) :
    (s.change change).find? type = change.found type (s.find? type) := by
  cases change with
  | collect cs => exact find?_ofList
  | read j =>
    rw [Conditions.change, Wire.decodeConditions_eq, Change.found]
    cases Wire.listed? j with
    | none => rfl
    | some cs => exact find?_ofList
  | set c clock => exact find?_set
  | remove removed => exact s.find?_remove removed

end

/-- Whatever changes have led to a set, what is found under a type is what the changes of that type
have left there, and every further change does what it should and reports whether it did. -/
theorem exact_after (changes : List Change) :
    (∀ type, (after changes).find? type = changes.foldl (Change.found type) none) ∧
      (after changes).Exact := by
  constructor
  · intro type
    exact (List.foldl_hom (find? type) fun s change ↦ (find?_change s change).symm).symm
  · exact (after changes).exact

end Conditions

end ControlLoop
