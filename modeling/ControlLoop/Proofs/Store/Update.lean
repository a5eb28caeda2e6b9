import ControlLoop.Store

/-!
# Status writes

A status write comes to one of four ends, and the store decides between them in this order: a queued
failure, an object that is not stored, a version that is not the stored one, the write. What is
written is the object given, moved on to the next version.
-/

namespace ControlLoop

namespace Object

/-- The object as it is stored by a successful write of it. -/
def advanced (o : Object) : Object := o.withVersion (saturatingAdd64 o.version 1)

@[simp] theorem key_advanced (o : Object) : o.advanced.key = o.key := rfl

@[simp] theorem conditions_advanced (o : Object) : o.advanced.conditions = o.conditions := rfl

theorem toNat_version_advanced (o : Object) :
    o.advanced.version.toNat = min (o.version.toNat + 1) (UInt64.size - 1) := by
  rw [advanced, version_withVersion, toNat_saturatingAdd64]
  rfl

end Object

namespace Store

/-- The ends of a status write: the answer and the store afterwards. -/
inductive Write (s : Store) (o : Object) : Except Error Object × Store → Prop
  | injected (e : Error) (rest : List Error) (hfailures : s.failures = e :: rest) :
    Write s o (.error e, { s with failures := rest })
  | missing (hfailures : s.failures = []) (hstored : s.get? o.key = none) :
    Write s o (.error (.objectNotFound o.key.text), s)
  | conflict (stored : Object) (hfailures : s.failures = [])
    (hstored : s.get? o.key = some stored) (hversion : stored.version ≠ o.version) :
    Write s o (.error (.conflict o.key.text stored.version o.version), s)
  | written (stored : Object) (hfailures : s.failures = [])
    (hstored : s.get? o.key = some stored) (hversion : stored.version = o.version) :
    Write s o (.ok o.advanced, { s.insert o.advanced with writes := saturatingAdd64 s.writes 1 })

/-- An update is a write in one of the ways in which a write can go. -/
theorem write_update (s : Store) (o : Object) : s.Write o (s.update o) := by
  unfold update
  split
  · next e rest hfailures => exact .injected e rest hfailures
  · next hfailures =>
    split
    · next hstored => exact .missing hfailures hstored
    · next stored hstored =>
      split
      · next hversion => exact .conflict stored hfailures hstored hversion
      · next hversion => exact .written stored hfailures hstored (Decidable.not_not.1 hversion)

/-- What a successful update answers is the object with the next version. -/
theorem eq_advanced_of_update {s : Store} {o written : Object}
    (h : (s.update o).1 = .ok written) : written = o.advanced := by
  have hwrite := s.write_update o
  generalize s.update o = r at h hwrite
  cases hwrite with
  | written => exact (Except.ok.inj h).symm
  | injected | missing | conflict => exact nomatch h

/-- Every object is stored under its own key. -/
def Keyed (s : Store) : Prop := ∀ key o, s.get? key = some o → o.key = key

theorem keyed_empty : Keyed ∅ := by
  intro key o h
  exact nomatch h

theorem Keyed.insert {s : Store} (hs : s.Keyed) (o : Object) : (s.insert o).Keyed := by
  intro key stored hstored
  rw [get?_insert] at hstored
  split at hstored
  · next hkey => rwa [← Option.some.inj hstored]
  · exact hs key stored hstored

theorem Keyed.remove {s : Store} (hs : s.Keyed) (removed : ObjectKey) :
    (s.remove removed).Keyed := by
  intro key stored hstored
  rw [get?_remove] at hstored
  split at hstored
  · exact nomatch hstored
  · exact hs key stored hstored

theorem Keyed.failNext {s : Store} (hs : s.Keyed) (e : Error) : (s.failNext e).Keyed := hs

/-- An update stores no object under the key of another. -/
theorem Keyed.update {s : Store} (hs : s.Keyed) (o : Object) : (s.update o).2.Keyed := by
  have hwrite := s.write_update o
  generalize s.update o = r at hwrite
  cases hwrite with
  | injected | missing | conflict => exact hs
  | written => exact hs.insert o.advanced

theorem failures_update_eq_tail (s : Store) (o : Object) :
    (s.update o).2.failures = s.failures.tail := by
  have hwrite := s.write_update o
  generalize s.update o = r at hwrite
  cases hwrite with
  | injected e rest hfailures => simp [hfailures]
  | missing hfailures | conflict stored hfailures => simp [hfailures]
  | written stored hfailures => simp [insert, hfailures]

theorem failures_update {s : Store} (hs : s.failures = []) (o : Object) :
    (s.update o).2.failures = [] := by
  rw [failures_update_eq_tail, hs]
  rfl

/-- A write replaces what is stored under the key of the object, and only if it succeeds. -/
theorem get?_update (s : Store) (o : Object) (key : ObjectKey) :
    (s.update o).2.get? key =
      match (s.update o).1 with
      | .ok written => if o.key = key then some written else s.get? key
      | .error _ => s.get? key := by
  have hwrite := s.write_update o
  generalize s.update o = r at hwrite
  cases hwrite with
  | injected | missing | conflict => rfl
  | written => exact s.get?_insert o.advanced key

variable {s t : Store} {o stored : Object} {e : Error}

/-- The answer to a write follows from what is queued and from what is stored under its key. -/
theorem answer_update_eq (hfailures : s.failures = t.failures)
    (hstored : s.get? o.key = t.get? o.key) : (s.update o).1 = (t.update o).1 := by
  unfold update
  rw [hfailures, hstored]
  cases t.failures with
  | cons e rest => rfl
  | nil =>
    cases t.get? o.key with
    | none => rfl
    | some stored =>
      dsimp only
      split
      · rfl
      · rfl

/-- A queued failure comes before everything else. -/
theorem update_of_queued {rest : List Error} (hfailures : s.failures = e :: rest) :
    s.update o = (.error e, { s with failures := rest }) := by
  simp [update, hfailures]

theorem update_of_not_stored (hfailures : s.failures = []) (hstored : s.get? o.key = none) :
    s.update o = (.error (.objectNotFound o.key.text), s) := by
  simp [update, hfailures, hstored]

theorem update_of_version_ne (hfailures : s.failures = []) (hstored : s.get? o.key = some stored)
    (hversion : stored.version ≠ o.version) :
    s.update o = (.error (.conflict o.key.text stored.version o.version), s) := by
  simp [update, hfailures, hstored, hversion]

theorem update_of_version_eq (hfailures : s.failures = []) (hstored : s.get? o.key = some stored)
    (hversion : stored.version = o.version) :
    s.update o =
      (.ok o.advanced, { s.insert o.advanced with writes := saturatingAdd64 s.writes 1 }) := by
  simp [update, hfailures, hstored, hversion, Object.advanced]

/-- An update fails for a queued failure, a missing object or another version, and for nothing
else. -/
theorem update_fails_iff :
    (∃ e, (s.update o).1 = .error e) ↔
      s.failures ≠ [] ∨ s.get? o.key = none ∨
        ∃ stored, s.get? o.key = some stored ∧ stored.version ≠ o.version := by
  have hwrite := s.write_update o
  generalize s.update o = r at hwrite
  cases hwrite with
  | injected e rest hfailures => simp [hfailures]
  | missing hfailures hstored => simp [hstored]
  | conflict stored hfailures hstored hversion => simp [hstored, hversion]
  | written stored hfailures hstored hversion => simp [hfailures, hstored, hversion]

/-- What is stored is the same after a write that fails. -/
theorem objects_update_of_error (h : (s.update o).1 = .error e) :
    (s.update o).2.objects = s.objects ∧ (s.update o).2.writes = s.writes := by
  have hwrite := s.write_update o
  generalize s.update o = r at h hwrite
  cases hwrite with
  | injected | missing | conflict => exact ⟨rfl, rfl⟩
  | written => cases h

/-- A successful update is counted, as long as the counter can go on. -/
theorem toNat_writes_update_of_ok {written : Object} (h : (s.update o).1 = .ok written) :
    (s.update o).2.writes.toNat = min (s.writes.toNat + 1) (UInt64.size - 1) := by
  have hwrite := s.write_update o
  generalize s.update o = r at h hwrite
  cases hwrite with
  | injected | missing | conflict => cases h
  | written => exact toNat_saturatingAdd64 s.writes 1

end Store

end ControlLoop
