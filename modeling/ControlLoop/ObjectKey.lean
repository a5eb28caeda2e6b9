import Std.Data.ExtTreeMap.Lemmas
import Std.Data.ExtTreeSet.Lemmas

/-!
# Object keys

An object is known by its namespace and its name; a cluster-wide object has the empty namespace.
Keys are ordered by namespace and then by name, texts by their characters.
-/

namespace ControlLoop

structure ObjectKey where
  space : String
  name : String
deriving DecidableEq

namespace ObjectKey

def order : ObjectKey → ObjectKey → Ordering :=
  compareLex (compareOn space) (compareOn name)

instance : Ord ObjectKey := ⟨order⟩

instance : Std.TransOrd ObjectKey :=
  inferInstanceAs (Std.TransCmp (compareLex (compareOn space) (compareOn name)))

instance : Std.LawfulEqOrd ObjectKey where
  eq_of_compare {a b} h := by
    change compareLex (compareOn space) (compareOn name) a b = .eq at h
    rw [compareLex_eq_eq] at h
    obtain ⟨hs, hn⟩ := h
    cases a
    cases b
    simp only [compareOn, Std.LawfulEqOrd.compare_eq_iff_eq] at hs hn
    simp [hs, hn]

/-- The keys in ascending order, each once. -/
def sorted (keys : List ObjectKey) : List ObjectKey :=
  (Std.ExtTreeSet.ofList keys).toList

def text (k : ObjectKey) : String :=
  if k.space = "" then k.name else k.space ++ "/" ++ k.name

end ObjectKey

end ControlLoop
