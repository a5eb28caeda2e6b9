import ControlLoop.Proofs.Reconciler.Passes
import Mathlib.Data.List.Induction

/-!
# Ledgers

A ledger lists, in order, how passes ended and which keys were forgotten. The failure counts that
follow from it have for every key the length of its streak: the failed passes since the last pass
that did not fail, or since the key was last forgotten, as far as a count can show it.
-/

namespace ControlLoop

namespace FailureCounts

variable {f : FailureCounts} {key : ObjectKey}

/-- Only keys with failures have an entry. -/
def Positive (f : FailureCounts) : Prop := ∀ key ∈ f.counts, f.count key ≠ 0

theorem next_ne_zero (f : FailureCounts) (key : ObjectKey) : f.next key ≠ 0 := by
  intro h
  have hnext := toNat_next f key
  rw [h] at hnext
  simp only [UInt32.toNat_zero, UInt32.size] at hnext
  omega

theorem positive_empty : (∅ : FailureCounts).Positive := fun _ h ↦
  absurd h Std.ExtTreeMap.not_mem_empty

/-- A failure adds no entry without failures. -/
theorem Positive.recordFailure (hf : f.Positive) (key : ObjectKey) :
    (f.recordFailure key).Positive := by
  intro other hother
  rw [count_recordFailure]
  by_cases h : key = other
  · rw [if_pos h]
    exact next_ne_zero f key
  · rw [if_neg h]
    rcases Std.ExtTreeMap.mem_insert.1 hother with heq | hmem
    · exact absurd (Std.LawfulEqOrd.eq_of_compare heq) h
    · exact hf other hmem

/-- Where a key is forgotten, the other entries still have failures. -/
theorem Positive.clear (hf : f.Positive) (key : ObjectKey) : (f.clear key).Positive := by
  intro other hother
  obtain ⟨hne, hmem⟩ := Std.ExtTreeMap.mem_erase.1 hother
  have h : key ≠ other := fun heq ↦ hne (Std.LawfulEqOrd.compare_eq_iff_eq.2 heq)
  rw [count_clear, if_neg h]
  exact hf other hmem

/-- The failing keys are those with failures. -/
theorem Positive.mem_failing_iff (hf : f.Positive) : key ∈ f.failing ↔ f.count key ≠ 0 := by
  unfold failing
  rw [Std.ExtTreeMap.mem_keys]
  refine ⟨hf key, fun hcount ↦ ?_⟩
  by_contra h
  exact hcount (Std.ExtTreeMap.getD_eq_fallback h)

/-- The failing keys are listed in order, each once. -/
theorem pairwise_failing (f : FailureCounts) :
    f.failing.Pairwise fun a b ↦ compare a b = .lt :=
  Std.ExtTreeMap.ordered_keys

end FailureCounts

inductive LedgerEntry where
  | ended (key : ObjectKey) (s : Signal) (outcome : Outcome)
  | forgotten (key : ObjectKey)

namespace LedgerEntry

def key : LedgerEntry → ObjectKey
  | .ended key _ _ => key
  | .forgotten key => key

def isFailure : LedgerEntry → Bool
  | .ended _ (.propagate _) _ => true
  | _ => false

/-- The counts after the entry. -/
def count (f : FailureCounts) : LedgerEntry → FailureCounts
  | .ended key s _ => f.afterPass key s
  | .forgotten key => f.clear key

theorem count_of_isFailure {e : LedgerEntry} (h : e.isFailure) (f : FailureCounts) :
    e.count f = f.recordFailure e.key := by
  rcases e with ⟨key, _ | _ | _ | error, outcome⟩ | key
  · exact nomatch h
  · exact nomatch h
  · exact nomatch h
  · rfl
  · exact nomatch h

/-- Any other end of a pass counts as its key being forgotten. -/
theorem count_of_not_isFailure {e : LedgerEntry} (h : ¬ e.isFailure) (f : FailureCounts) :
    e.count f = f.clear e.key := by
  rcases e with ⟨key, _ | _ | _ | error, outcome⟩ | key
  · rfl
  · rfl
  · rfl
  · exact absurd rfl h
  · rfl

end LedgerEntry

abbrev Ledger := List LedgerEntry

namespace Ledger

/-- The failed passes of a key since the last one that did not fail, or since the key was last
forgotten. -/
def streak (key : ObjectKey) (l : Ledger) : Nat :=
  ((l.filter (·.key = key)).reverse.takeWhile (·.isFailure)).length

/-- The failure counts that follow from the ledger. -/
def tally (l : Ledger) : FailureCounts := l.foldl LedgerEntry.count ∅

variable {key : ObjectKey} {e : LedgerEntry} (l : Ledger)

/-- The last entry counts after the others. -/
theorem tally_concat (e : LedgerEntry) : tally (l ++ [e]) = e.count l.tally := by
  unfold tally
  rw [List.foldl_append]
  rfl

/-- An entry of another key leaves the streak. -/
theorem streak_concat_of_ne (h : e.key ≠ key) : streak key (l ++ [e]) = l.streak key := by
  unfold streak
  rw [List.filter_append]
  simp [h]

theorem streak_concat_of_isFailure (hkey : e.key = key) (h : e.isFailure) :
    streak key (l ++ [e]) = l.streak key + 1 := by
  unfold streak
  rw [List.filter_append]
  simp [hkey, h]

theorem streak_concat_of_not_isFailure (hkey : e.key = key) (h : ¬ e.isFailure) :
    streak key (l ++ [e]) = 0 := by
  unfold streak
  rw [List.filter_append]
  simp [hkey, h]

/-- No ledger leaves an entry without failures. -/
theorem positive_tally : l.tally.Positive := by
  induction l using List.reverseRecOn with
  | nil => exact FailureCounts.positive_empty
  | append_singleton l e ih =>
    rw [tally_concat]
    by_cases h : e.isFailure
    · rw [LedgerEntry.count_of_isFailure h]
      exact ih.recordFailure e.key
    · rw [LedgerEntry.count_of_not_isFailure h]
      exact ih.clear e.key

/-- The counts that follow from a ledger are its streaks. -/
theorem toNat_count_tally (key : ObjectKey) :
    (l.tally.count key).toNat = min (l.streak key) (UInt32.size - 1) := by
  induction l using List.reverseRecOn with
  | nil => rfl
  | append_singleton l e ih =>
    rw [tally_concat]
    by_cases hkey : e.key = key
    · by_cases h : e.isFailure
      · rw [LedgerEntry.count_of_isFailure h, FailureCounts.count_recordFailure, if_pos hkey, hkey]
        calc ((tally l).next key).toNat
            = min (((tally l).count key).toNat + 1) (UInt32.size - 1) :=
              FailureCounts.toNat_next (tally l) key
          _ = min (min (streak key l) (UInt32.size - 1) + 1) (UInt32.size - 1) := by rw [ih]
          _ = min (streak key l + 1) (UInt32.size - 1) := by omega
          _ = min (streak key (l ++ [e])) (UInt32.size - 1) := by
              rw [streak_concat_of_isFailure l hkey h]
      · rw [LedgerEntry.count_of_not_isFailure h, FailureCounts.count_clear, if_pos hkey,
          streak_concat_of_not_isFailure l hkey h]
        rfl
    · rw [streak_concat_of_ne l hkey, ← ih]
      by_cases h : e.isFailure
      · rw [LedgerEntry.count_of_isFailure h, FailureCounts.count_recordFailure, if_neg hkey]
      · rw [LedgerEntry.count_of_not_isFailure h, FailureCounts.count_clear, if_neg hkey]

end Ledger

end ControlLoop
