import ControlLoop.Condition.Set
import ControlLoop.ObjectKey

/-!
# Objects

What is reconciled: metadata, a set of conditions and a specification, of which the loop only needs
the text. A finalizer is a name that keeps a deleted object alive until its owner takes it off.
-/

namespace ControlLoop

structure Metadata where
  name : String
  space : String := ""
  generation : Int64 := 0
  resourceVersion : UInt64 := 0
  deletion : Option UtcTime := none
  finalizers : List String := []
deriving DecidableEq

namespace Metadata

def key (m : Metadata) : ObjectKey := ⟨m.space, m.name⟩

def isDeleting (m : Metadata) : Bool := m.deletion.isSome

def hasFinalizer (m : Metadata) (finalizer : String) : Bool := m.finalizers.contains finalizer

/-- Adds a finalizer at the end unless it is there. -/
def addFinalizer (m : Metadata) (finalizer : String) : Metadata :=
  if m.hasFinalizer finalizer then m else { m with finalizers := m.finalizers ++ [finalizer] }

/-- Takes off every occurrence of a finalizer. -/
def removeFinalizer (m : Metadata) (finalizer : String) : Metadata :=
  { m with finalizers := m.finalizers.filter (· ≠ finalizer) }

theorem hasFinalizer_addFinalizer (m : Metadata) (finalizer : String) :
    (m.addFinalizer finalizer).hasFinalizer finalizer = true := by
  unfold addFinalizer
  split
  · assumption
  · simp [hasFinalizer]

theorem hasFinalizer_removeFinalizer (m : Metadata) (finalizer : String) :
    (m.removeFinalizer finalizer).hasFinalizer finalizer = false := by
  simp [hasFinalizer, removeFinalizer]

end Metadata

structure Object where
  kind : String
  metadata : Metadata
  conditions : Conditions
  spec : String
deriving DecidableEq

namespace Object

def key (o : Object) : ObjectKey := o.metadata.key

def version (o : Object) : UInt64 := o.metadata.resourceVersion

def withVersion (o : Object) (version : UInt64) : Object :=
  { o with metadata := { o.metadata with resourceVersion := version } }

@[simp] theorem key_withVersion (o : Object) (version : UInt64) :
    (o.withVersion version).key = o.key := rfl

@[simp] theorem version_withVersion (o : Object) (version : UInt64) :
    (o.withVersion version).version = version := rfl

end Object

end ControlLoop
