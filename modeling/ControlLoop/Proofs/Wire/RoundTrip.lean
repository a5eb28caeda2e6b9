import ControlLoop.Proofs.Condition.Reading
import ControlLoop.Proofs.Wire.Records

/-!
# Objects are read as they are written

Metadata and sets of conditions come back from the wire as they were, in the same order. A time that
was read off the clock is written as the time the clock showed, so a set goes over the wire with its
clock readings made out. What arrives may be looser than what is written: members in any order and
among others, optional members missing, types repeated. A set that is read from such an array holds
the last condition of each type, and is read the same once it is written again.
-/

namespace ControlLoop

/-! ## Clock readings -/

/-- The time of a stamp, where the clock showed `clock turn` in each turn. -/
def Stamp.time (clock : Nat → UtcTime) : Stamp → UtcTime
  | .given time => time
  | .read turn => clock turn

/-- The time of the condition, if it has one, is given and not a reading of the clock. -/
def Condition.Given (c : Condition) : Prop :=
  ∃ time : Option UtcTime, c.lastTransition = time.map .given

def Condition.dated (clock : Nat → UtcTime) (c : Condition) : Condition :=
  { c with lastTransition := (c.lastTransition.map (Stamp.time clock)).map .given }

theorem Condition.given_dated (clock : Nat → UtcTime) (c : Condition) : (c.dated clock).Given :=
  ⟨_, rfl⟩

def Conditions.dated (clock : Nat → UtcTime) (s : Conditions) : Conditions where
  entries := s.entries.map (Condition.dated clock)
  nodup := by
    rw [List.map_map]
    exact s.nodup

namespace Wire

variable {m : Metadata} {c : Condition} {cs : List Condition} {s : Conditions} {j : Json}
  {members : List (String × Json)} {records : List (List (String × Json))}

/-! ## Metadata -/

/-- The members make up the metadata, possibly among others. -/
structure HoldsMetadata (m : Metadata) (members : List (String × Json)) : Prop where
  nodup : (members.map Prod.fst).Nodup
  name : members.lookup "name" = some (.text m.name)
  space : Holds .text "" m.space (members.lookup "namespace")
  generation : Holds (.integer ·.toInt) 0 m.generation (members.lookup "generation")
  version : Holds (.nat ·.toNat) 0 m.resourceVersion (members.lookup "resourceVersion")
  deletion : Holds encodeTime none m.deletion (members.lookup "deletionTimestamp")
  finalizers : Holds (fun texts ↦ .array (texts.map .text)) [] m.finalizers
    (members.lookup "finalizers")

/-- A record that holds metadata decodes to them. -/
theorem decodeMetadata_record (h : HoldsMetadata m members) :
    decodeMetadata (.record members) = some m := by
  unfold decodeMetadata
  rw [fields?_record h.nodup]
  simp only [metadataFields, List.map_cons, List.map_nil, Option.bind_eq_bind, Option.bind_some,
    h.name, required, decodeText_text, h.space.optional_eq decodeText_text,
    h.generation.optional_eq decodeInt64_integer, h.version.optional_eq decodeUInt64_nat,
    h.deletion.optional_eq decodeTime_encodeTime, h.finalizers.optional_eq decodeTexts_array,
    Option.pure_def]

/-- Metadata are encoded as a record that holds them. -/
theorem holdsMetadata_encodeMetadata (m : Metadata) :
    ∃ members, encodeMetadata m = .record members ∧ HoldsMetadata m members := by
  refine ⟨_, rfl, ?_⟩
  constructor
  case nodup => cases m.deletion <;> split <;> simp [whenPresent]
  case name => rfl
  case space => exact .inl rfl
  case generation => exact .inl rfl
  case version => exact .inl rfl
  case deletion =>
    cases m.deletion with
    | none =>
      right
      split <;> simp [whenPresent]
    | some time => exact .inl rfl
  case finalizers =>
    cases m.finalizers with
    | nil =>
      right
      cases m.deletion <;> simp [whenPresent]
    | cons first more =>
      left
      cases m.deletion <;> rfl

theorem decodeMetadata_encodeMetadata (m : Metadata) :
    decodeMetadata (encodeMetadata m) = some m := by
  obtain ⟨members, hmembers, hholds⟩ := holdsMetadata_encodeMetadata m
  rw [hmembers, decodeMetadata_record hholds]

/-! ## Conditions -/

/-- The members make up the condition, possibly among others. -/
structure HoldsCondition (c : Condition) (members : List (String × Json)) : Prop where
  nodup : (members.map Prod.fst).Nodup
  type : members.lookup "type" = some (.text c.type)
  status : members.lookup "status" = some (.text c.status.text)
  reason : Holds .text "" c.reason (members.lookup "reason")
  message : Holds .text "" c.message (members.lookup "message")
  generation : Holds (.integer ·.toInt) 0 c.observedGeneration (members.lookup "observedGeneration")
  transition : ∃ time : Option UtcTime, c.lastTransition = time.map .given ∧
    Holds encodeTime none time (members.lookup "lastTransitionTime")

/-- A record that holds a condition decodes to it. -/
theorem decodeCondition_record (h : HoldsCondition c members) :
    decodeCondition (.record members) = some c := by
  obtain ⟨time, hgiven, htime⟩ := h.transition
  unfold decodeCondition
  rw [fields?_record h.nodup]
  simp only [conditionFields, List.map_cons, List.map_nil, Option.bind_eq_bind, Option.bind_some,
    h.type, h.status, required, decodeText_text, decodeStatus_text,
    h.reason.optional_eq decodeText_text, h.message.optional_eq decodeText_text,
    h.generation.optional_eq decodeInt64_integer, htime.optional_eq decodeTime_encodeTime,
    Option.pure_def, ← hgiven]

/-- A condition with its time given is encoded as a record that holds it. -/
theorem holdsCondition_encodeCondition (h : c.Given) :
    ∃ members, encodeCondition c = .record members ∧ HoldsCondition c members := by
  obtain ⟨time, hgiven⟩ := h
  refine ⟨_, rfl, ?_⟩
  rw [hgiven]
  constructor
  case nodup => cases time <;> simp [whenPresent]
  case type => rfl
  case status => rfl
  case reason => exact .inl rfl
  case message => exact .inl rfl
  case generation => exact .inl rfl
  case transition =>
    refine ⟨time, hgiven, ?_⟩
    cases time with
    | none => exact .inr ⟨rfl, rfl⟩
    | some time => exact .inl rfl

theorem decodeCondition_encodeCondition (h : c.Given) :
    decodeCondition (encodeCondition c) = some c := by
  obtain ⟨members, hmembers, hholds⟩ := holdsCondition_encodeCondition h
  rw [hmembers, decodeCondition_record hholds]

/-- A condition that is read has the time it was given, if any. -/
theorem given_of_decodeCondition (h : decodeCondition j = some c) : c.Given := by
  unfold decodeCondition at h
  obtain ⟨fields, -, h⟩ := Option.bind_eq_some_iff.1 h
  split at h
  · obtain ⟨type, -, h⟩ := Option.bind_eq_some_iff.1 h
    obtain ⟨status, -, h⟩ := Option.bind_eq_some_iff.1 h
    obtain ⟨reason, -, h⟩ := Option.bind_eq_some_iff.1 h
    obtain ⟨message, -, h⟩ := Option.bind_eq_some_iff.1 h
    obtain ⟨generation, -, h⟩ := Option.bind_eq_some_iff.1 h
    obtain ⟨time, -, h⟩ := Option.bind_eq_some_iff.1 h
    cases h
    exact ⟨time, rfl⟩
  · cases h

/-! ## Sets of conditions -/

/-- A set of conditions with their times given decodes from its encoding. -/
theorem decodeConditions_encodeConditions (h : ∀ c ∈ s.entries, c.Given) :
    decodeConditions (encodeConditions s) = some s := by
  have hlisted : listed? (encodeConditions s) = some s.entries :=
    mapM_map_eq_some fun c hc ↦ decodeCondition_encodeCondition (h c hc)
  rw [decodeConditions_eq, hlisted, Option.map_some, Conditions.ofList_entries]

theorem given_of_listed (h : listed? j = some cs) (hc : c ∈ cs) : c.Given := by
  obtain ⟨items, -, hitems⟩ := Option.bind_eq_some_iff.1 h
  obtain ⟨item, hitem⟩ := exists_of_mem_mapM hitems hc
  exact given_of_decodeCondition hitem

/-- Records that hold conditions list them in order. -/
theorem listed?_records (h : List.Forall₂ HoldsCondition cs records) :
    listed? (.array (records.map .record)) = some cs := by
  change (records.map Json.record).mapM decodeCondition = some cs
  induction h with
  | nil => rfl
  | cons hc _ ih =>
    rw [List.map_cons, List.mapM_cons, decodeCondition_record hc, ih]
    rfl

/-- Metadata and sets of conditions come back as they are written. An array of records is read as
the conditions that they hold, and an array of conditions as the last one of each type, in the order
of these; the set that is read comes back as well once it is written. -/
theorem decode_encode :
    (∀ m, decodeMetadata (encodeMetadata m) = some m) ∧
      (∀ (clock : Nat → UtcTime) (s : Conditions),
        decodeConditions (encodeConditions (s.dated clock)) = some (s.dated clock)) ∧
      (∀ cs records, List.Forall₂ HoldsCondition cs records →
        listed? (.array (records.map .record)) = some cs) ∧
      ∀ (j : Json) (s : Conditions), decodeConditions j = some s →
        ∃ cs, listed? j = some cs ∧
          s.types = (cs.map Condition.type).dedup ∧
          (∀ type, s.find? type = (cs.filter (·.type = type)).getLast?) ∧
          decodeConditions (encodeConditions s) = some s := by
  refine ⟨decodeMetadata_encodeMetadata, ?_, fun _ _ ↦ listed?_records, ?_⟩
  · intro clock s
    apply decodeConditions_encodeConditions
    intro c hc
    obtain ⟨e, -, rfl⟩ := List.mem_map.1 hc
    exact e.given_dated clock
  · intro j s hread
    rw [decodeConditions_eq, Option.map_eq_some_iff] at hread
    obtain ⟨cs, hlisted, rfl⟩ := hread
    refine ⟨cs, hlisted, Conditions.types_ofList, fun _ ↦ Conditions.find?_ofList, ?_⟩
    apply decodeConditions_encodeConditions
    intro c hc
    exact given_of_listed hlisted (Conditions.mem_of_mem_ofList hc)

/-- A type that is repeated, in records without most of their optional members. -/
theorem decode_encode_repeated :
    let time : UtcTime := ⟨⟨2024, 5, 1, by decide, by decide, by decide⟩,
      ⟨43200, 250000000, by decide, by decide⟩⟩
    let cs : List Condition :=
      [{ type := "Ready", status := .affirmed },
        { type := "Synced", status := .unknown, reason := "Waiting" },
        { type := "Ready", status := .denied, lastTransition := some (.given time) }]
    let records : List (List (String × Json)) :=
      [[("type", .text "Ready"), ("status", .text "True")],
        [("reason", .text "Waiting"), ("status", .text "Unknown"), ("type", .text "Synced")],
        [("type", .text "Ready"), ("status", .text "False"), ("note", .null),
          ("lastTransitionTime", .text "2024-05-01T12:00:00.250Z")]]
    List.Forall₂ HoldsCondition cs records ∧
      listed? (.array (records.map .record)) = some cs ∧
      ∃ s, decodeConditions (.array (records.map .record)) = some s ∧
        s.types = ["Synced", "Ready"] ∧ decodeConditions (encodeConditions s) = some s := by
  intro time cs records
  have hprint : Rfc3339.print time = "2024-05-01T12:00:00.250Z" := by decide +kernel
  have hholds : List.Forall₂ HoldsCondition cs records := by
    refine .cons ?_ (.cons ?_ (.cons ?_ .nil))
    · exact ⟨by decide, rfl, rfl, .inr ⟨rfl, rfl⟩, .inr ⟨rfl, rfl⟩, .inr ⟨rfl, rfl⟩,
        none, rfl, .inr ⟨rfl, rfl⟩⟩
    · exact ⟨by decide, rfl, rfl, .inl rfl, .inr ⟨rfl, rfl⟩, .inr ⟨rfl, rfl⟩,
        none, rfl, .inr ⟨rfl, rfl⟩⟩
    · exact ⟨by decide, rfl, rfl, .inr ⟨rfl, rfl⟩, .inr ⟨rfl, rfl⟩, .inr ⟨rfl, rfl⟩,
        some time, rfl, .inl (congrArg (some ∘ Json.text) hprint.symm)⟩
  have hlisted := decode_encode.2.2.1 cs records hholds
  have hread : decodeConditions (.array (records.map .record)) = some (.ofList cs) := by
    rw [decodeConditions_eq, hlisted, Option.map_some]
  obtain ⟨-, -, -, -, hagain⟩ := decode_encode.2.2.2 _ _ hread
  exact ⟨hholds, hlisted, .ofList cs, hread, rfl, hagain⟩

end Wire

end ControlLoop
