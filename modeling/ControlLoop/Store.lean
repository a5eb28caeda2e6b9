import ControlLoop.Error
import ControlLoop.Object.Basic
import ControlLoop.Saturating

/-!
# The object store

Objects are stored under their own keys. A status write succeeds only on the version it was read at
and moves the version on, so of several writers of one version only the first succeeds. Failures can
be queued for the writes to come; they take precedence over every other outcome.
-/

namespace ControlLoop

structure Store where
  objects : Std.ExtTreeMap ObjectKey Object
  failures : List Error
  writes : UInt64

namespace Store

def empty : Store := ⟨∅, [], 0⟩

instance : EmptyCollection Store := ⟨empty⟩

variable (s : Store)

def insert (o : Object) : Store := { s with objects := s.objects.insert o.key o }

def ofList (objects : List Object) : Store := objects.foldl insert ∅

def get? (key : ObjectKey) : Option Object := s.objects[key]?

def remove (key : ObjectKey) : Store := { s with objects := s.objects.erase key }

/-- Makes the first write that finds no other failure queued before this one fail. -/
def failNext (e : Error) : Store := { s with failures := s.failures ++ [e] }

/-- The answer to a write of the status and the store afterwards: the object as it is stored now, or
the reason why nothing was written. -/
def update (o : Object) : Except Error Object × Store :=
  match s.failures with
  | e :: rest => (.error e, { s with failures := rest })
  | [] =>
    match s.get? o.key with
    | none => (.error (.objectNotFound o.key.text), s)
    | some stored =>
      if stored.version ≠ o.version then
        (.error (.conflict o.key.text stored.version o.version), s)
      else
        let written := o.withVersion (saturatingAdd64 o.version 1)
        (.ok written, { s.insert written with writes := saturatingAdd64 s.writes 1 })

theorem get?_insert (o : Object) (key : ObjectKey) :
    (s.insert o).get? key = if o.key = key then some o else s.get? key := by
  simp [insert, get?, Std.ExtTreeMap.getElem?_insert]

theorem get?_remove (removed key : ObjectKey) :
    (s.remove removed).get? key = if removed = key then none else s.get? key := by
  simp [remove, get?, Std.ExtTreeMap.getElem?_erase]

end Store

end ControlLoop
