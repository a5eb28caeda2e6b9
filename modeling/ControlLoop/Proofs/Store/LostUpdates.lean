import ControlLoop.Proofs.Store.Revisions
import Mathlib.Data.List.Nodup

/-!
# Lost updates

Versions keep clients from overwriting each other's writes as long as there is a next version. The
last version stays the last one when it is written, so every copy of it can be written, and what is
written from one copy is lost under what is then written from another. Nothing is lost exactly if
all writes of the last version are of one copy.
-/

namespace ControlLoop

namespace Attempt

/-- Whether the copy was based on what was stored when it was written. -/
def Current (a : Attempt) : Prop := a.copy.revision = a.revision ∧ a.stored = some a.copy.base

variable {a : Attempt} {start : Nat} {stored : Object} {done : List Attempt}

theorem Known.length_take (h : a.Known start stored done) :
    (done.take a.revision).length = a.revision := by
  rw [List.length_take]
  exact Nat.min_eq_left h.revision_le

/-- No copy is of a revision that is yet to come. -/
theorem Known.copy_revision_le (h : a.Known start stored done) : a.copy.revision ≤ a.revision := by
  have hle := h.copy.revision_le
  rwa [h.length_take] at hle

/-- A copy of the last revision is current. -/
theorem Known.current (h : a.Known start stored done) (hrevision : a.copy.revision = a.revision) :
    a.Current := by
  have hbase : a.copy.base = stored := h.copy.base (hrevision.trans h.length_take.symm)
  exact ⟨hrevision, by rw [h.stored_eq, hbase]⟩

/-- Before the last version a write succeeds only from a copy of what is stored. -/
theorem Known.revision_eq (h : a.Known start stored done) (hok : a.succeeded)
    (hlast : a.version.toNat ≠ lastVersion) : a.copy.revision = a.revision := by
  have hversions : versionAt start a.copy.revision = versionAt start a.revision := by
    rw [← h.copy.version, ← h.version, h.succeeded_iff.1 hok]
    rfl
  apply eq_of_versionAt_eq hversions
  rw [← h.copy.version]
  exact hlast

/-- At the last version every write succeeds. -/
theorem Known.succeeded_of_last (h : a.Known start stored done)
    (hlast : a.version.toNat = lastVersion) : a.succeeded := by
  rw [h.succeeded_iff, ← UInt64.toNat_inj, hlast, h.version]
  apply versionAt_eq_lastVersion_of_le _ h.copy_revision_le
  rw [← h.copy.version]
  exact hlast

/-- An attempt that fails, fails for the conflict of its versions. -/
theorem Known.refused (h : a.Known start stored done) (hfailed : ¬ a.succeeded) :
    a.answer = .error (.conflict a.key.text stored.version a.version) := by
  rw [h.answer, if_neg]
  intro hversion
  exact hfailed (h.succeeded_iff.2 hversion)

end Attempt

/-- What versions are for, said of the writes of one object: of the copies of one version at most
one is ever written, what is written was based on what is stored, and all other writes are
conflicts. -/
structure NoLostUpdates (attempts : List Attempt) : Prop where
  once : ∀ a ∈ attempts, ∀ b ∈ attempts, a.succeeded → b.succeeded → a.version = b.version →
    a.copy.serial = b.copy.serial
  current : ∀ a ∈ attempts, a.succeeded → a.Current
  refused : ∀ a ∈ attempts, ¬ a.succeeded → ∃ stored, a.stored = some stored ∧
    a.answer = .error (.conflict a.key.text stored.version a.version)

/-- Whether all writes of the last version are of one copy. -/
def LastVersionSole (attempts : List Attempt) : Prop :=
  ∀ a ∈ attempts, ∀ b ∈ attempts, a.version.toNat = lastVersion → b.version.toNat = lastVersion →
    a.copy.serial = b.copy.serial

namespace Traffic

variable {κ : Type} {t : Traffic κ} {key : ObjectKey} {start : Nat} {a b : Attempt}

theorem Tracked.known (ht : t.Tracked key start) (ha : a ∈ t.successes key) :
    ∃ o, a.Known start o (t.successes key) :=
  ht.attempt a (List.mem_filter.1 ha).1

/-- No two successful attempts are of one revision. -/
theorem Tracked.eq_of_revision_eq (ht : t.Tracked key start) (ha : a ∈ t.successes key)
    (hb : b ∈ t.successes key) (h : a.revision = b.revision) : a = b := by
  have hnodup : ((t.successes key).map Attempt.revision).Nodup := by
    rw [ht.revisions]
    exact List.nodup_range
  exact List.inj_on_of_nodup_map hnodup ha hb h

/-- Before the last version a successful write is the only one of its version. -/
theorem Tracked.eq_of_version_eq (ht : t.Tracked key start) (ha : a ∈ t.successes key)
    (hb : b ∈ t.successes key) (h : a.version = b.version) (hlast : a.version.toNat ≠ lastVersion) :
    a = b := by
  obtain ⟨o, hknown⟩ := ht.known ha
  obtain ⟨o', hknown'⟩ := ht.known hb
  have hok : a.succeeded := (List.mem_filter.1 ha).2
  have hok' : b.succeeded := (List.mem_filter.1 hb).2
  apply ht.eq_of_revision_eq ha hb
  apply eq_of_versionAt_eq
  · rw [← hknown.version, ← hknown'.version, hknown.succeeded_iff.1 hok,
      hknown'.succeeded_iff.1 hok', h]
  · rw [← hknown.version, hknown.succeeded_iff.1 hok]
    exact hlast

/-- The write that a copy missed, if it was written after another write had succeeded. -/
theorem Tracked.exists_missed (ht : t.Tracked key start) {o : Object}
    (hknown : a.Known start o (t.successes key)) (hmissed : a.copy.revision < a.revision) :
    ∃ b ∈ (t.successes key).take a.revision, b.revision = a.copy.revision := by
  have hmem : a.copy.revision ∈ ((t.successes key).take a.revision).map Attempt.revision := by
    rw [List.map_take, ht.revisions, List.take_range, List.mem_range]
    have hle := hknown.revision_le
    omega
  rw [List.mem_map] at hmem
  exact hmem

theorem Tracked.current_of_last (ht : t.Tracked key start)
    (hsole : LastVersionSole (t.attemptsOn key)) (ha : a ∈ t.attemptsOn key)
    (hlast : a.version.toNat = lastVersion) : a.Current := by
  obtain ⟨o, hknown⟩ := ht.attempt a ha
  apply hknown.current
  apply Nat.le_antisymm hknown.copy_revision_le
  apply Nat.le_of_not_lt
  intro hmissed
  obtain ⟨b, hb, hrevision⟩ := ht.exists_missed hknown hmissed
  have hsuccess : b ∈ t.successes key := List.mem_of_mem_take hb
  obtain ⟨hmem, hok⟩ := List.mem_filter.1 hsuccess
  obtain ⟨o', hknown'⟩ := ht.known hsuccess
  have hlast' : b.version.toNat = lastVersion := by
    rw [← hknown'.succeeded_iff.1 hok, hknown'.version, hrevision, ← hknown.copy.version]
    exact hlast
  have hserial : b.copy.serial = a.copy.serial := hsole b hmem a ha hlast' hlast
  have hbefore : b.revision < a.copy.revision := hknown.copy.own b hb hserial
  exact absurd hrevision (Nat.ne_of_lt hbefore)

/-- No update is lost exactly if all writes of the last version are of one copy. -/
theorem Tracked.noLostUpdates_iff (ht : t.Tracked key start) :
    NoLostUpdates (t.attemptsOn key) ↔ LastVersionSole (t.attemptsOn key) := by
  constructor
  · intro h a ha b hb hlast hlast'
    obtain ⟨o, hknown⟩ := ht.attempt a ha
    obtain ⟨o', hknown'⟩ := ht.attempt b hb
    apply h.once a ha b hb (hknown.succeeded_of_last hlast) (hknown'.succeeded_of_last hlast')
    rw [← UInt64.toNat_inj, hlast, hlast']
  · intro hsole
    constructor
    · intro a ha b hb hok hok' hversion
      by_cases hlast : a.version.toNat = lastVersion
      · exact hsole a ha b hb hlast (hversion ▸ hlast)
      · have hsame : a = b := ht.eq_of_version_eq (List.mem_filter.2 ⟨ha, hok⟩)
          (List.mem_filter.2 ⟨hb, hok'⟩) hversion hlast
        rw [hsame]
    · intro a ha hok
      by_cases hlast : a.version.toNat = lastVersion
      · exact ht.current_of_last hsole ha hlast
      · obtain ⟨o, hknown⟩ := ht.attempt a ha
        exact hknown.current (hknown.revision_eq hok hlast)
    · intro a ha hfailed
      obtain ⟨o, hknown⟩ := ht.attempt a ha
      exact ⟨o, hknown.stored_eq, hknown.refused hfailed⟩

/-- As long as the last version is not reached nothing has been lost. -/
theorem Tracked.noLostUpdates_of_version_ne (ht : t.Tracked key start) {o : Object}
    (ho : t.store.get? key = some o) (hroom : o.version.toNat ≠ lastVersion) :
    NoLostUpdates (t.attemptsOn key) := by
  apply ht.noLostUpdates_iff.2
  intro a ha b hb hlast
  obtain ⟨o', hknown⟩ := ht.attempt a ha
  have hcopy : versionAt start a.copy.revision = lastVersion := by
    rw [← hknown.copy.version]
    exact hlast
  have hle : a.copy.revision ≤ (t.successes key).length :=
    Nat.le_trans hknown.copy_revision_le hknown.revision_le
  have hstored : o.version.toNat = lastVersion := by
    rw [ht.stored o ho]
    exact versionAt_eq_lastVersion_of_le hcopy hle
  exact absurd hstored hroom

variable [DecidableEq κ]

/-- Whatever the clients of a store do in whatever order, the writes of an object lose no update
exactly if those of the last version are all of one copy. -/
theorem noLostUpdates_run_iff {s : Store} (hkeyed : s.Keyed) (hfailures : s.failures = [])
    (moves : List (Move κ)) (key : ObjectKey) :
    NoLostUpdates (((opening s).run moves).attemptsOn key) ↔
      LastVersionSole (((opening s).run moves).attemptsOn key) :=
  ((tracked_opening hkeyed hfailures key).run moves).noLostUpdates_iff

def lease (version : UInt64) : Object :=
  ⟨"Lease", { name := "a", resourceVersion := version }, ∅, ""⟩

/-- The change of an object to another specification. -/
def respecify (spec : String) : Edit where
  apply o := { o with spec }
  key_apply _ := rfl
  version_apply _ := rfl

/-- Two clients fetch the same object, change it each in its own way and write it. -/
def rivalry (version : UInt64) : Traffic Bool :=
  (opening (Store.insert ∅ (lease version))).run
    [.fetch true (lease version).key, .fetch false (lease version).key,
      .change true (respecify "x"), .change false (respecify "y"), .write true, .write false]

/-- Between rivals that begin with version zero no update is lost. -/
theorem noLostUpdates_rivalry :
    (Store.insert ∅ (lease 0)).Keyed ∧ (Store.insert ∅ (lease 0)).failures = [] ∧
      NoLostUpdates ((rivalry 0).attemptsOn (lease 0).key) := by
  have hkeyed : (Store.insert ∅ (lease 0)).Keyed := Store.keyed_empty.insert (lease 0)
  refine ⟨hkeyed, rfl, (noLostUpdates_run_iff hkeyed rfl _ _).2 ?_⟩
  change LastVersionSole ((rivalry 0).attemptsOn (lease 0).key)
  unfold LastVersionSole
  decide +kernel

/-- At the last version both rivals succeed, the second one with a copy of what the first
replaced. -/
theorem not_noLostUpdates_rivalry :
    ¬ NoLostUpdates
      ((rivalry 18446744073709551615).attemptsOn (lease 18446744073709551615).key) := by
  intro h
  have hstale : ∃ a ∈ (rivalry 18446744073709551615).attemptsOn (lease 18446744073709551615).key,
      a.succeeded ∧ a.copy.revision ≠ a.revision := by
    decide +kernel
  obtain ⟨a, ha, hok, hrevision⟩ := hstale
  exact hrevision (h.current a ha hok).1

end Traffic

end ControlLoop
