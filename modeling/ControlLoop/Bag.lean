import ControlLoop.Text.Quoted
import Std.Data.ExtTreeMap.Lemmas

/-!
# Bags of typed values

Steps leave values for later steps under keys. A value is found only at its own type; under a wrong
type it is neither returned nor changed nor removed. The types are those of any family whose members
can be told apart; the steps of a script use six of them.
-/

namespace ControlLoop

/-- A value of a family of types together with its type. -/
structure TypedValue {τ : Type} (V : τ → Type) where
  type : τ
  value : V type

namespace TypedValue

variable {τ : Type} [DecidableEq τ] {V : τ → Type}

def hasType (v : TypedValue V) (type : τ) : Bool := v.type = type

/-- The value, if it has the given type. -/
def get? (v : TypedValue V) (type : τ) : Option (V type) :=
  if h : v.type = type then some (h ▸ v.value) else none

@[simp] theorem get?_mk (type : τ) (value : V type) :
    (TypedValue.mk type value).get? type = some value := by
  simp [get?]

theorem get?_eq_none {v : TypedValue V} {type : τ} (h : v.type ≠ type) : v.get? type = none := by
  simp [get?, h]

theorem get?_eq_some_iff {v : TypedValue V} {type : τ} {value : V type} :
    v.get? type = some value ↔ v = ⟨type, value⟩ := by
  constructor
  · intro h
    by_cases htype : v.type = type
    · subst htype
      rw [get?_mk] at h
      obtain rfl := Option.some.inj h
      rfl
    · rw [get?_eq_none htype] at h
      exact nomatch h
  · rintro rfl
    exact get?_mk type value

end TypedValue

structure Bag {τ : Type} (V : τ → Type) where
  values : Std.ExtTreeMap String (TypedValue V)

namespace Bag

section Operations

variable {τ : Type} {V : τ → Type}

def empty : Bag V := ⟨∅⟩

instance : EmptyCollection (Bag V) := ⟨empty⟩

variable (b : Bag V) (key : String) (type : τ)

/-- The value under a key whatever its type. -/
def lookup? : Option (TypedValue V) := b.values[key]?

def insert (value : V type) : Bag V := ⟨b.values.insert key ⟨type, value⟩⟩

def contains : Bool := b.values.contains key

def size : Nat := b.values.size

def isEmpty : Bool := b.values.isEmpty

/-- The keys in ascending order. -/
def keys : List String := b.values.keys

def display : String := "Bag \x7b keys: " ++ Text.quotedList b.keys ++ " \x7d"

variable [DecidableEq τ]

def get? : Option (V type) := (b.lookup? key).bind (·.get? type)

/-- Changes the value under a key in place, if it has the type. -/
def modify (change : V type → V type) : Bag V :=
  match b.get? key type with
  | some value => b.insert key type (change value)
  | none => b

/-- Takes out the value under a key, if it has the type. -/
def remove : Option (V type) × Bag V :=
  if (b.lookup? key).any (·.hasType type) then
    ((b.lookup? key).bind (·.get? type), ⟨b.values.erase key⟩)
  else (none, b)

end Operations

section Lookup

variable {τ : Type} {V : τ → Type} {b : Bag V} {key : String} {type : τ}

theorem lookup?_insert (b : Bag V) (key : String) (value : V type) (other : String) :
    (b.insert key type value).lookup? other =
      if key = other then some ⟨type, value⟩ else b.lookup? other := by
  simp [insert, lookup?, Std.ExtTreeMap.getElem?_insert]

@[simp] theorem lookup?_empty (key : String) : (∅ : Bag V).lookup? key = none :=
  Std.ExtTreeMap.getElem?_empty

theorem lookup?_erase (b : Bag V) (key other : String) :
    (⟨b.values.erase key⟩ : Bag V).lookup? other =
      if key = other then none else b.lookup? other := by
  simp [lookup?, Std.ExtTreeMap.getElem?_erase]

theorem contains_eq_isSome (b : Bag V) (key : String) :
    b.contains key = (b.lookup? key).isSome :=
  Std.ExtTreeMap.contains_eq_isSome_getElem?

variable [DecidableEq τ]

theorem get?_eq_some_iff {value : V type} :
    b.get? key type = some value ↔ b.lookup? key = some ⟨type, value⟩ := by
  unfold get?
  rw [Option.bind_eq_some_iff]
  constructor
  · rintro ⟨v, hv, hvalue⟩
    rw [hv, TypedValue.get?_eq_some_iff.1 hvalue]
  · intro h
    exact ⟨_, h, TypedValue.get?_mk type value⟩

theorem modify_of_get?_eq_some {value : V type} (h : b.get? key type = some value)
    (change : V type → V type) : b.modify key type change = b.insert key type (change value) := by
  rw [modify, h]

theorem modify_of_get?_eq_none (h : b.get? key type = none) (change : V type → V type) :
    b.modify key type change = b := by
  rw [modify, h]

theorem remove_of_get?_eq_some {value : V type} (h : b.get? key type = some value) :
    b.remove key type = (some value, ⟨b.values.erase key⟩) := by
  rw [get?_eq_some_iff] at h
  simp [remove, h, TypedValue.hasType]

theorem remove_of_get?_eq_none (h : b.get? key type = none) : b.remove key type = (none, b) := by
  unfold remove
  cases hlookup : b.lookup? key with
  | none => rfl
  | some v =>
    have htype : v.type ≠ type := by
      rintro rfl
      rw [get?_eq_some_iff.2 hlookup] at h
      exact nomatch h
    simp [TypedValue.hasType, htype]

end Lookup

end Bag

/-- The types of the values that the steps of a script leave. -/
inductive BagType where
  | text
  | word32
  | word64
  | int64
  | flag
  | texts
deriving DecidableEq

/-- The values of a type. -/
abbrev BagType.Value : BagType → Type
  | .text => String
  | .word32 => UInt32
  | .word64 => UInt64
  | .int64 => Int64
  | .flag => Bool
  | .texts => List String

abbrev BagValue := TypedValue BagType.Value

end ControlLoop
