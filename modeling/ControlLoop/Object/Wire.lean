import ControlLoop.Json.Value
import ControlLoop.Object.Basic

/-!
# The wire form of objects

Keys, metadata and conditions as JSON, by the usual conventions for records.

* A record is written as an object with all its members in order, but for times and finalizers that
  are absent.
* It is read from an object whose members may come in any order. Unknown members are ignored,
  whatever their values, and a repeated member of the record is refused.
* A missing member has its default if it has one: no time, no finalizers, zero, or the empty text. A
  name, a type or a status that is missing is refused.
* It is also read from an array of its fields in order, of which the last ones may be missing in the
  same way, but which may not have more items than the record has fields.
* Only a time may be `null`, which is a time that is absent. A number has to be an integer in range.
-/

namespace ControlLoop.Wire

/-- The fields of a record, by the names of its members. -/
def fields? (names : List String) : Json → Option (List (Option Json))
  | .object members => do
    let known ← members.mapM fun (name, value) ↦ name.map (·, value)
    names.mapM fun name ↦
      match known.filter (·.1 = name) with
      | [] => some none
      | [(_, value)] => some (some value)
      | _ => none
  | .array items =>
    if items.length ≤ names.length then
      some (items.map some ++ List.replicate (names.length - items.length) none)
    else none
  | _ => none

variable {α : Type}

/-- A field that has to be there. -/
def required (decode : Json → Option α) (field : Option Json) : Option α :=
  field.bind decode

/-- A field that has a value when it is missing. -/
def optional (default : α) (decode : Json → Option α) : Option Json → Option α
  | none => some default
  | some value => decode value

def decodeText : Json → Option String := Json.string?

def decodeInt64 : Json → Option Int64 := Json.int64?

def decodeUInt64 (j : Json) : Option UInt64 := (j.unsigned? UInt64.size).map UInt64.ofNat

def decodeTime : Json → Option (Option UtcTime)
  | .null => some none
  | j => do return some (← Rfc3339.parse? (← j.string?))

def decodeTexts (j : Json) : Option (List String) := do (← j.array?).mapM decodeText

/-- A status is its name, alone or as the one member of an object that is `null`. -/
def decodeStatus : Json → Option ConditionStatus
  | .string (some name) => ConditionStatus.ofText? name
  | .object [(some name, .null)] => ConditionStatus.ofText? name
  | _ => none

def decodeKey (j : Json) : Option ObjectKey := do
  match ← fields? ["namespace", "name"] j with
  | [space, name] => return ⟨← required decodeText space, ← required decodeText name⟩
  | _ => none

def encodeKey (k : ObjectKey) : Json :=
  .record [("namespace", .text k.space), ("name", .text k.name)]

def metadataFields : List String :=
  ["name", "namespace", "generation", "resourceVersion", "deletionTimestamp", "finalizers"]

def decodeMetadata (j : Json) : Option Metadata := do
  match ← fields? metadataFields j with
  | [name, space, generation, version, deletion, finalizers] =>
    return {
      name := ← required decodeText name
      space := ← optional "" decodeText space
      generation := ← optional 0 decodeInt64 generation
      resourceVersion := ← optional 0 decodeUInt64 version
      deletion := ← optional none decodeTime deletion
      finalizers := ← optional [] decodeTexts finalizers }
  | _ => none

/-- A member that is written only when it has a value. -/
def whenPresent (name : String) (encode : α → Json) : Option α → List (String × Json)
  | none => []
  | some a => [(name, encode a)]

def encodeMetadata (m : Metadata) : Json :=
  .record <|
    [("name", .text m.name), ("namespace", .text m.space),
      ("generation", .integer m.generation.toInt),
      ("resourceVersion", .nat m.resourceVersion.toNat)] ++
    whenPresent "deletionTimestamp" (fun t ↦ .text (Rfc3339.print t)) m.deletion ++
    if m.finalizers.isEmpty then [] else [("finalizers", .array (m.finalizers.map Json.text))]

def conditionFields : List String :=
  ["type", "status", "reason", "message", "observedGeneration", "lastTransitionTime"]

def decodeCondition (j : Json) : Option Condition := do
  match ← fields? conditionFields j with
  | [type, status, reason, message, generation, transition] =>
    return {
      type := ← required decodeText type
      status := ← required decodeStatus status
      reason := ← optional "" decodeText reason
      message := ← optional "" decodeText message
      observedGeneration := ← optional 0 decodeInt64 generation
      lastTransition := (← optional none decodeTime transition).map .given }
  | _ => none

def encodeCondition (c : Condition) : Json :=
  .record <|
    [("type", .text c.type), ("status", .text c.status.text), ("reason", .text c.reason),
      ("message", .text c.message),
      ("observedGeneration", .integer c.observedGeneration.toInt)] ++
    whenPresent "lastTransitionTime" (fun t ↦ .text t.text) c.lastTransition

def decodeConditions (j : Json) : Option Conditions := do
  return .ofList (← (← j.array?).mapM decodeCondition)

def encodeConditions (s : Conditions) : Json := .array (s.entries.map encodeCondition)

def encodeObject (o : Object) : Json :=
  .record [("kind", .text o.kind), ("meta", encodeMetadata o.metadata),
    ("conditions", encodeConditions o.conditions), ("spec", .text o.spec)]

end ControlLoop.Wire
