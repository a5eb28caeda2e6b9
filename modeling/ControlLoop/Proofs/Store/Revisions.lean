import ControlLoop.Proofs.Store.Clients

/-!
# Revisions of an object

The successful writes of an object number its revisions. As long as nothing but the clients touches
the store, the version of an object is that of its first revision moved on once for each write, up
to the last version that there is. A copy has the version of its revision, so below the last version
a copy with the stored version is a copy of the stored revision.
-/

namespace ControlLoop

/-- The last version, which a write leaves as it is. -/
def lastVersion : Nat := UInt64.size - 1

/-- The version of a revision of an object that began at version `start`. -/
def versionAt (start revision : Nat) : Nat := min (start + revision) lastVersion

theorem versionAt_succ (start revision : Nat) :
    min (versionAt start revision + 1) lastVersion = versionAt start (revision + 1) := by
  unfold versionAt
  omega

/-- Before the last version, each revision has a version of its own. -/
theorem eq_of_versionAt_eq {start r r' : Nat} (h : versionAt start r = versionAt start r')
    (hlast : versionAt start r ≠ lastVersion) : r = r' := by
  unfold versionAt at h hlast
  omega

/-- Once a revision has the last version, the later ones do. -/
theorem versionAt_eq_lastVersion_of_le {start r r' : Nat} (h : versionAt start r = lastVersion)
    (hle : r ≤ r') : versionAt start r' = lastVersion := by
  unfold versionAt at h ⊢
  omega

theorem toNat_version_advanced_eq {start revision : Nat} {o : Object}
    (h : o.version.toNat = versionAt start revision) :
    o.advanced.version.toNat = versionAt start (revision + 1) := by
  rw [o.toNat_version_advanced, h]
  exact versionAt_succ start revision

/-- What is known of a copy while `stored` is stored, after the successful writes `done`: it has the
version of its revision, it is based on what is stored if that revision is the last one, and its own
writes made earlier ones. -/
structure Copy.Known (c : Copy) (start : Nat) (stored : Object) (done : List Attempt) : Prop where
  revision_le : c.revision ≤ done.length
  version : c.version.toNat = versionAt start c.revision
  base : c.revision = done.length → c.base = stored
  own : ∀ a ∈ done, a.copy.serial = c.serial → a.revision < c.revision

/-- A successful write of another copy leaves a copy behind. -/
theorem Copy.Known.behind {c : Copy} {start : Nat} {stored now : Object} {done : List Attempt}
    {a : Attempt} (h : c.Known start stored done) (hserial : c.serial ≠ a.copy.serial) :
    c.Known start now (done ++ [a]) where
  revision_le := by
    rw [List.length_append]
    exact Nat.le_add_right_of_le h.revision_le
  version := h.version
  base hrevision := by
    have hle := h.revision_le
    rw [hrevision, List.length_append, List.length_singleton] at hle
    exact absurd hle (Nat.not_succ_le_self _)
  own b hb hown := by
    rw [List.mem_append, List.mem_singleton] at hb
    rcases hb with hb | rfl
    · exact h.own b hb hown
    · exact absurd hown.symm hserial

/-- What a successful write leaves of its copy is a copy of the new revision. -/
theorem Copy.known_written {o : Object} {start : Nat} {done : List Attempt} (serial : Nat)
    (hversion : o.version.toNat = versionAt start done.length)
    (hearlier : ∀ a ∈ done, a.revision < done.length) :
    (Copy.mk serial o o done.length).Known start o done where
  revision_le := Nat.le_refl _
  version := hversion
  base _ := rfl
  own a ha _ := hearlier a ha

/-- What is known of an attempt on a store that held `stored`, where `done` are successful writes
from before and after the attempt. -/
structure Attempt.Known (a : Attempt) (start : Nat) (stored : Object) (done : List Attempt) :
    Prop where
  revision_le : a.revision ≤ done.length
  stored_eq : a.stored = some stored
  version : stored.version.toNat = versionAt start a.revision
  copy : a.copy.Known start stored (done.take a.revision)
  answer : a.answer =
    if stored.version = a.version then .ok a.copy.object.advanced
    else .error (.conflict a.key.text stored.version a.version)

/-- An attempt succeeds exactly if the stored object has the version of the copy. -/
theorem Attempt.Known.succeeded_iff {a : Attempt} {start : Nat} {stored : Object}
    {done : List Attempt} (h : a.Known start stored done) :
    a.succeeded ↔ stored.version = a.version := by
  rw [succeeded, h.answer]
  split
  · next hversion => simp [hversion, Except.isOk, Except.toBool]
  · next hversion => simp [hversion, Except.isOk, Except.toBool]

theorem Attempt.Known.answer_of_succeeded {a : Attempt} {start : Nat} {stored : Object}
    {done : List Attempt} (h : a.Known start stored done) (hok : a.succeeded) :
    a.answer = .ok a.copy.object.advanced := by
  rw [h.answer, if_pos (h.succeeded_iff.1 hok)]

theorem Attempt.Known.version_of_succeeded {a : Attempt} {start : Nat} {stored : Object}
    {done : List Attempt} (h : a.Known start stored done) (hok : a.succeeded) :
    a.copy.object.advanced.version.toNat = versionAt start (a.revision + 1) := by
  apply toNat_version_advanced_eq
  rw [← h.version, h.succeeded_iff.1 hok]
  rfl

/-- What is known of an attempt is not changed by later successes. -/
theorem Attempt.Known.append {a : Attempt} {start : Nat} {stored : Object} {done : List Attempt}
    (h : a.Known start stored done) (more : List Attempt) :
    a.Known start stored (done ++ more) where
  revision_le := by
    rw [List.length_append]
    exact Nat.le_add_right_of_le h.revision_le
  stored_eq := h.stored_eq
  version := h.version
  copy := by
    rw [List.take_append_of_le_length h.revision_le]
    exact h.copy
  answer := h.answer

namespace Traffic

variable {κ : Type}

/-- The copies that clients hold have numbers of their own. -/
structure Numbered (t : Traffic κ) : Prop where
  fresh : ∀ client c, t.copies client = some c → c.serial < t.fetches
  apart : ∀ client client' c c', t.copies client = some c → t.copies client' = some c' →
    c.serial = c'.serial → client = client'

/-- What holds of the object under a key that began at version `start`, at all times. -/
structure Tracked (key : ObjectKey) (start : Nat) (t : Traffic κ) : Prop extends t.Numbered where
  keyed : t.store.Keyed
  failures : t.store.failures = []
  stored : ∀ o, t.store.get? key = some o →
    o.version.toNat = versionAt start (t.successes key).length
  copy : ∀ client c, t.copies client = some c → c.key = key →
    ∃ o, t.store.get? key = some o ∧ c.Known start o (t.successes key)
  attempt : ∀ a ∈ t.attemptsOn key, ∃ o, a.Known start o (t.successes key)
  revisions : (t.successes key).map Attempt.revision = List.range (t.successes key).length
  serial : ∀ a ∈ t.successes key, a.copy.serial < t.fetches

variable {t t' : Traffic κ} {key : ObjectKey} {start : Nat}

/-- Replacing copies by ones of the same numbers keeps the numbering. -/
theorem Numbered.of_serials (ht : t.Numbered) (hfetches : t'.fetches = t.fetches)
    (hcopies : ∀ d c, t'.copies d = some c → ∃ old, t.copies d = some old ∧ old.serial = c.serial) :
    t'.Numbered where
  fresh d c hc := by
    obtain ⟨old, hold, hserial⟩ := hcopies d c hc
    rw [hfetches, ← hserial]
    exact ht.fresh d old hold
  apart d d' c c' hc hc' hserial := by
    obtain ⟨old, hold, hold_serial⟩ := hcopies d c hc
    obtain ⟨old', hold', hold_serial'⟩ := hcopies d' c' hc'
    apply ht.apart d d' old old' hold hold'
    rw [hold_serial, hserial, hold_serial']

variable {client : κ} {written : Copy}

/-- What is known of a copy is known of the attempt to write it. -/
theorem Tracked.known_attempt (ht : t.Tracked key start) (hwritten : t.copies client = some written)
    (hkey : written.key = key) :
    ∃ o, t.store.get? key = some o ∧ written.Known start o (t.successes key) ∧
      (t.attempt written).Known start o (t.successes key) := by
  obtain ⟨o, ho, hknown⟩ := ht.copy client written hwritten hkey
  subst hkey
  refine ⟨o, ho, hknown, ?_⟩
  constructor
  · exact Nat.le_refl _
  · exact ho
  · exact ht.stored o ho
  · change written.Known start o ((t.successes written.key).take (t.successes written.key).length)
    rw [List.take_length]
    exact hknown
  · change (t.store.update written.object).1 = _
    by_cases hversion : o.version = written.version
    · rw [Store.update_of_version_eq ht.failures ho hversion]
      exact (if_pos hversion).symm
    · rw [Store.update_of_version_ne ht.failures ho hversion]
      exact (if_neg hversion).symm

theorem Tracked.revision_lt (ht : t.Tracked key start) {a : Attempt} (ha : a ∈ t.successes key) :
    a.revision < (t.successes key).length := by
  rw [← List.mem_range, ← ht.revisions]
  exact List.mem_map_of_mem ha

/-- Before the clients begin, an object is at its first version. -/
theorem tracked_opening {s : Store} (hkeyed : s.Keyed) (hfailures : s.failures = [])
    (key : ObjectKey) :
    (opening s : Traffic κ).Tracked key ((s.get? key).elim 0 (·.version.toNat)) where
  fresh _ _ h := nomatch h
  apart _ _ _ _ h := nomatch h
  keyed := hkeyed
  failures := hfailures
  stored o ho := by
    have hbound : o.version.toNat < UInt64.size := o.version.toNat_lt
    change s.get? key = some o at ho
    change o.version.toNat = min ((s.get? key).elim 0 (·.version.toNat) + 0) (UInt64.size - 1)
    rw [ho, Option.elim_some, Nat.add_zero]
    omega
  copy _ _ h := nomatch h
  attempt _ h := nomatch h
  revisions := rfl
  serial _ h := nomatch h

variable [DecidableEq κ]

theorem Numbered.fetch (ht : t.Numbered) (client : κ) (fetched : ObjectKey) :
    (t.fetch client fetched).Numbered where
  fresh d c hc := by
    change c.serial < t.fetches + 1
    rcases copies_fetch hc with ⟨-, o, -, rfl⟩ | ⟨-, hc⟩
    · exact Nat.lt_succ_self _
    · exact Nat.lt_succ_of_lt (ht.fresh d c hc)
  apart d d' c c' hc hc' hserial := by
    rcases copies_fetch hc with ⟨hd, o, -, hnew⟩ | ⟨-, hold⟩
    · rcases copies_fetch hc' with ⟨hd', -⟩ | ⟨-, hold'⟩
      · exact hd.trans hd'.symm
      · have hfresh := ht.fresh d' c' hold'
        rw [← hserial, hnew] at hfresh
        exact absurd hfresh (Nat.lt_irrefl _)
    · rcases copies_fetch hc' with ⟨-, o, -, hnew'⟩ | ⟨-, hold'⟩
      · have hfresh := ht.fresh d c hold
        rw [hserial, hnew'] at hfresh
        exact absurd hfresh (Nat.lt_irrefl _)
      · exact ht.apart d d' c c' hold hold' hserial

theorem Numbered.change (ht : t.Numbered) (client : κ) (e : Edit) :
    (t.change client e).Numbered := by
  have hfetches : (t.change client e).fetches = t.fetches := rfl
  apply ht.of_serials hfetches
  intro d c hc
  rcases copies_change hc with hc | ⟨old, hold, rfl⟩
  · exact ⟨c, hc, rfl⟩
  · exact ⟨old, hold, rfl⟩

/-- A write leaves the copies with numbers of their own. -/
theorem Numbered.write {client : κ} {written : Copy} (ht : t.Numbered)
    (hwritten : t.copies client = some written) : (t.write client written).Numbered := by
  have hfetches : (t.write client written).fetches = t.fetches := rfl
  apply ht.of_serials hfetches
  intro d c hc
  rcases copies_write hc with ⟨rfl, rfl⟩ | ⟨-, hc⟩
  · exact ⟨written, hwritten, (written.serial_answered _ _).symm⟩
  · exact ⟨c, hc, rfl⟩

theorem Tracked.fetch (ht : t.Tracked key start) (client : κ) (fetched : ObjectKey) :
    (t.fetch client fetched).Tracked key start where
  toNumbered := ht.toNumbered.fetch client fetched
  keyed := ht.keyed
  failures := ht.failures
  stored := ht.stored
  attempt := ht.attempt
  revisions := ht.revisions
  serial a ha := Nat.lt_succ_of_lt (ht.serial a ha)
  copy d c hc hkey := by
    rcases copies_fetch hc with ⟨-, o, ho, rfl⟩ | ⟨-, hc⟩
    · have hfetched : fetched = key := (ht.keyed fetched o ho).symm.trans hkey
      subst hfetched
      refine ⟨o, ho, ?_⟩
      constructor
      · exact Nat.le_refl _
      · exact ht.stored o ho
      · intro _
        rfl
      · intro a ha hserial
        exact absurd hserial (Nat.ne_of_lt (ht.serial a ha))
    · exact ht.copy d c hc hkey

theorem Tracked.change (ht : t.Tracked key start) (client : κ) (e : Edit) :
    (t.change client e).Tracked key start where
  toNumbered := ht.toNumbered.change client e
  keyed := ht.keyed
  failures := ht.failures
  stored := ht.stored
  attempt := ht.attempt
  revisions := ht.revisions
  serial := ht.serial
  copy d c hc hkey := by
    rcases copies_change hc with hc | ⟨old, hold, rfl⟩
    · exact ht.copy d c hc hkey
    · obtain ⟨o, ho, hknown⟩ := ht.copy d old hold ((old.key_edited e).symm.trans hkey)
      refine ⟨o, ho, hknown.revision_le, ?_, hknown.base, hknown.own⟩
      rw [Copy.version_edited]
      exact hknown.version

theorem Tracked.attempt_write (ht : t.Tracked key start)
    (hwritten : t.copies client = some written) :
    ∀ a ∈ (t.write client written).attemptsOn key,
      ∃ o, a.Known start o ((t.write client written).successes key) := by
  intro a ha
  rw [successes_write]
  rw [attemptsOn_write, List.mem_append] at ha
  rcases ha with hold | hnew
  · obtain ⟨o, hknown⟩ := ht.attempt a hold
    exact ⟨o, hknown.append _⟩
  · by_cases hkey : written.key = key
    · rw [if_pos hkey, List.mem_singleton] at hnew
      subst hnew
      obtain ⟨o, -, -, hknown⟩ := ht.known_attempt hwritten hkey
      exact ⟨o, hknown.append _⟩
    · rw [if_neg hkey] at hnew
      exact nomatch hnew

/-- A write that fails, or is of another object, leaves the object where it was. -/
theorem Tracked.write_of_not (ht : t.Tracked key start) (hwritten : t.copies client = some written)
    (h : ¬ (written.key = key ∧ (t.attempt written).succeeded)) :
    (t.write client written).Tracked key start := by
  have hsuccesses : (t.write client written).successes key = t.successes key := by
    rw [successes_write, if_neg h, List.append_nil]
  have hstored : (t.write client written).store.get? key = t.store.get? key := by
    change (t.store.update written.object).2.get? key = _
    rw [Store.get?_update]
    cases hanswer : (t.store.update written.object).1 with
    | error e => rfl
    | ok o =>
      apply if_neg
      intro hkey
      exact h ⟨hkey, congrArg Except.isOk hanswer⟩
  constructor
  · exact ht.toNumbered.write hwritten
  · exact ht.keyed.update written.object
  · exact Store.failures_update ht.failures written.object
  · rw [hstored, hsuccesses]
    exact ht.stored
  · rw [hstored, hsuccesses]
    intro d c hc hkey
    rcases copies_write hc with ⟨-, rfl⟩ | ⟨-, hc⟩
    · rw [key_answered] at hkey
      rw [Copy.answered_eq_self fun hok ↦ h ⟨hkey, hok⟩]
      exact ht.copy client written hwritten hkey
    · exact ht.copy d c hc hkey
  · exact ht.attempt_write hwritten
  · rw [hsuccesses]
    exact ht.revisions
  · rw [hsuccesses]
    exact ht.serial

/-- A successful write makes the copy the new revision of its object. -/
theorem Tracked.write_of_success (ht : t.Tracked key start)
    (hwritten : t.copies client = some written) (hkey : written.key = key)
    (hok : (t.attempt written).succeeded) : (t.write client written).Tracked key start := by
  obtain ⟨o, -, -, hattempt⟩ := ht.known_attempt hwritten hkey
  have hrevision : (t.attempt written).revision = (t.successes key).length := by
    subst hkey
    rfl
  have hsuccesses : (t.write client written).successes key =
      t.successes key ++ [t.attempt written] := by
    rw [successes_write, if_pos ⟨hkey, hok⟩]
  have hlength : (t.successes key ++ [t.attempt written]).length =
      (t.attempt written).revision + 1 := by
    rw [List.length_append, List.length_singleton, hrevision]
  have hanswer : (t.store.update written.object).1 = .ok written.object.advanced :=
    hattempt.answer_of_succeeded hok
  have hstored : (t.write client written).store.get? key = some written.object.advanced := by
    change (t.store.update written.object).2.get? key = _
    rw [Store.get?_update, hanswer]
    exact if_pos hkey
  have hversion : written.object.advanced.version.toNat =
      versionAt start (t.successes key ++ [t.attempt written]).length := by
    rw [hlength]
    exact hattempt.version_of_succeeded hok
  have hearlier : ∀ a ∈ t.successes key ++ [t.attempt written],
      a.revision < (t.successes key ++ [t.attempt written]).length := by
    intro a ha
    rw [hlength, hrevision]
    rw [List.mem_append, List.mem_singleton] at ha
    rcases ha with ha | rfl
    · exact Nat.lt_succ_of_lt (ht.revision_lt ha)
    · exact Nat.lt_succ_of_le (Nat.le_of_eq hrevision)
  constructor
  · exact ht.toNumbered.write hwritten
  · exact ht.keyed.update written.object
  · exact Store.failures_update ht.failures written.object
  · rw [hstored, hsuccesses]
    intro o' ho'
    rw [← Option.some.inj ho']
    exact hversion
  · rw [hstored, hsuccesses]
    intro d c hc hckey
    refine ⟨_, rfl, ?_⟩
    rcases copies_write hc with ⟨-, rfl⟩ | ⟨hd, hc⟩
    · have hanswered : written.answered (t.attempt written).revision (t.attempt written).answer =
          ⟨written.serial, written.object.advanced, written.object.advanced,
            (t.successes key ++ [t.attempt written]).length⟩ := by
        rw [hattempt.answer_of_succeeded hok, hlength]
        rfl
      rw [hanswered]
      exact Copy.known_written written.serial hversion hearlier
    · obtain ⟨o', -, hknown⟩ := ht.copy d c hc hckey
      apply hknown.behind
      intro hserial
      exact hd (ht.apart d client c written hc hwritten hserial)
  · exact ht.attempt_write hwritten
  · rw [hsuccesses, hlength, List.map_append, ht.revisions, List.range_succ, ← hrevision]
    rfl
  · rw [hsuccesses]
    intro a ha
    rw [List.mem_append, List.mem_singleton] at ha
    rcases ha with ha | rfl
    · exact ht.serial a ha
    · exact ht.fresh client written hwritten

/-- Every move of a client keeps what holds of the object. -/
theorem Tracked.step (ht : t.Tracked key start) (move : Move κ) :
    (t.step move).Tracked key start := by
  cases move with
  | fetch client fetched => exact ht.fetch client fetched
  | change client e => exact ht.change client e
  | write client =>
    cases hwritten : t.copies client with
    | none =>
      rw [step_write_of_none hwritten]
      exact ht
    | some written =>
      rw [step_write hwritten]
      by_cases h : written.key = key ∧ (t.attempt written).succeeded
      · exact ht.write_of_success hwritten h.1 h.2
      · exact ht.write_of_not hwritten h

/-- Any moves of the clients keep what holds of the object. -/
theorem Tracked.run (ht : t.Tracked key start) (moves : List (Move κ)) :
    (t.run moves).Tracked key start := by
  induction moves generalizing t with
  | nil => exact ht
  | cons move moves ih => exact ih (ht.step move)

end Traffic

end ControlLoop
