import ControlLoop.ObjectKey
import ControlLoop.Saturating

/-!
# Consecutive failures

For every object the number of passes that failed since the last one that did not. Only positive
counts are kept, so the keys are those of the objects whose last pass failed.
-/

namespace ControlLoop

structure FailureCounts where
  counts : Std.ExtTreeMap ObjectKey UInt32

namespace FailureCounts

def empty : FailureCounts := ⟨∅⟩

instance : EmptyCollection FailureCounts := ⟨empty⟩

variable (f : FailureCounts) (key : ObjectKey)

def count : UInt32 := f.counts.getD key 0

/-- The count after one more failure. -/
def next : UInt32 := saturatingAdd32 (f.count key) 1

def recordFailure : FailureCounts := ⟨f.counts.insert key (f.next key)⟩

def clear : FailureCounts := ⟨f.counts.erase key⟩

/-- The objects whose last pass failed, in ascending order. -/
def failing : List ObjectKey := f.counts.keys

theorem count_recordFailure (other : ObjectKey) :
    (f.recordFailure key).count other = if key = other then f.next key else f.count other := by
  simp only [count, recordFailure, Std.ExtTreeMap.getD_insert, Std.LawfulEqOrd.compare_eq_iff_eq]

theorem count_clear (other : ObjectKey) :
    (f.clear key).count other = if key = other then 0 else f.count other := by
  simp only [count, clear, Std.ExtTreeMap.getD_erase, Std.LawfulEqOrd.compare_eq_iff_eq]

end FailureCounts

end ControlLoop
