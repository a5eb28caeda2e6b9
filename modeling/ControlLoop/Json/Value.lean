/-!
# JSON values

A text holds `none` when it contains an unpaired surrogate: such a text is well formed and may be
skipped, but it has no characters. A number is kept only when it is written as an integer other
than `-0`; the value of any other number is never asked for. Members keep their order and their
repetitions, since a reader of records has to see both.
-/

namespace ControlLoop

inductive Json where
  | null
  | bool (b : Bool)
  | integer (n : Int)
  | fractional
  | string (text : Option String)
  | array (items : List Json)
  | object (members : List (Option String × Json))

namespace Json

/-- A text without unpaired surrogates. -/
abbrev text (s : String) : Json := .string (some s)

/-- An object with the given members. -/
def record (members : List (String × Json)) : Json :=
  .object (members.map fun (name, value) ↦ (some name, value))

def nat (n : Nat) : Json := .integer n

/-- The value of a member of an object; the first one where the name is repeated. -/
def get? (j : Json) (name : String) : Option Json :=
  match j with
  | .object members => (members.find? (·.1 == some name)).map (·.2)
  | _ => none

def string? : Json → Option String
  | .string (some s) => some s
  | _ => none

def integer? : Json → Option Int
  | .integer n => some n
  | _ => none

def bool? : Json → Option Bool
  | .bool b => some b
  | _ => none

def array? : Json → Option (List Json)
  | .array items => some items
  | _ => none

/-- The integer, if it is one of the first `size` natural numbers. -/
def unsigned? (size : Nat) (j : Json) : Option Nat := do
  let n ← j.integer?
  guard (0 ≤ n ∧ n < size)
  return n.toNat

/-- The integer, if it fits into 64 bits with a sign. -/
def int64? (j : Json) : Option Int64 := do
  let n ← j.integer?
  guard (Int64.minValue.toInt ≤ n ∧ n ≤ Int64.maxValue.toInt)
  return .ofInt n

end Json

end ControlLoop
