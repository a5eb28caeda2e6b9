import ControlLoop.Object.Wire
import ControlLoop.Proofs.Time.Rfc3339
import Mathlib.Data.List.Basic

/-!
# Records and their fields

The fields of a record that is written as an object are found by their names, whatever order its
members stand in and whichever of them are missing. The value of each kind of field is read as it is
written.
-/

namespace ControlLoop.Wire

variable {α β : Type} {names : List String} {members : List (String × Json)} {name : String}

theorem mapM_eq_some_map {f : α → Option β} {g : α → β} {as : List α}
    (h : ∀ a ∈ as, f a = some (g a)) : as.mapM f = some (as.map g) := by
  induction as with
  | nil => rfl
  | cons a as ih =>
    rw [List.mapM_cons, h a List.mem_cons_self, ih fun b hb ↦ h b (List.mem_cons_of_mem a hb)]
    rfl

/-- Each of several items comes back if it is one that does. -/
theorem mapM_map_eq_some {encode : α → β} {decode : β → Option α} {as : List α}
    (h : ∀ a ∈ as, decode (encode a) = some a) : (as.map encode).mapM decode = some as := by
  rw [List.mapM_map]
  exact (mapM_eq_some_map h).trans (congrArg some as.map_id')

theorem exists_of_mem_mapM {f : α → Option β} {as : List α} {bs : List β} {b : β}
    (h : as.mapM f = some bs) (hb : b ∈ bs) : ∃ a, f a = some b := by
  induction as generalizing bs with
  | nil =>
    cases h
    cases hb
  | cons a as ih =>
    rw [List.mapM_cons] at h
    obtain ⟨first, hfirst, h⟩ := Option.bind_eq_some_iff.1 h
    obtain ⟨more, hmore, h⟩ := Option.bind_eq_some_iff.1 h
    cases h
    rcases List.mem_cons.1 hb with rfl | hlater
    · exact ⟨a, hfirst⟩
    · exact ih hmore hlater

/-! ## Members -/

/-- Among members of distinct names at most one has the given name. -/
theorem filter_name (h : (members.map Prod.fst).Nodup) :
    members.filter (·.1 = name) = ((members.lookup name).map (name, ·)).toList := by
  induction members with
  | nil => rfl
  | cons member members ih =>
    obtain ⟨first, value⟩ := member
    rw [List.map_cons, List.nodup_cons] at h
    obtain ⟨hfirst, hrest⟩ := h
    by_cases hname : first = name
    · subst hname
      have hnone : members.filter (·.1 = first) = [] := by
        rw [List.filter_eq_nil_iff]
        intro later hlater hsame
        apply hfirst
        exact List.mem_map.2 ⟨later, hlater, of_decide_eq_true hsame⟩
      rw [List.filter_cons_of_pos (by simp), hnone, List.lookup_cons_self]
      rfl
    · have hother : (name == first) = false := by
        simpa using fun h ↦ hname h.symm
      rw [List.filter_cons_of_neg (by simpa using hname), ih hrest, List.lookup_cons, hother]

/-- The fields of a record with no name twice are found under their names. -/
theorem fields?_record (h : (members.map Prod.fst).Nodup) :
    fields? names (.record members) = some (names.map fun name ↦ members.lookup name) := by
  have hknown : (members.map fun member ↦ (some member.1, member.2)).mapM
      (fun member : Option String × Json ↦ member.1.map (·, member.2)) = some members :=
    mapM_map_eq_some fun _ _ ↦ rfl
  change Option.bind _ _ = _
  rw [hknown, Option.bind_some]
  apply mapM_eq_some_map
  intro name _
  rw [filter_name h]
  cases members.lookup name with
  | none => rfl
  | some value => rfl

/-! ## Values -/

theorem decodeText_text (text : String) : decodeText (.text text) = some text := rfl

theorem decodeInt64_integer (n : Int64) : decodeInt64 (.integer n.toInt) = some n := by
  have hrange : Int64.minValue.toInt ≤ n.toInt ∧ n.toInt ≤ Int64.maxValue.toInt :=
    ⟨n.le_toInt, n.toInt_le⟩
  unfold decodeInt64 Json.int64? Json.integer?
  simp only [guard, Option.bind_eq_bind, Option.bind_some, if_pos hrange]
  exact congrArg some n.ofInt_toInt

-- The size stays a variable here, since a comparison with the number of words would be evaluated.
theorem unsigned?_nat {size n : Nat} (h : n < size) : (Json.nat n).unsigned? size = some n := by
  have hrange : 0 ≤ (n : Int) ∧ (n : Int) < size := ⟨Int.natCast_nonneg n, Int.ofNat_lt.2 h⟩
  unfold Json.unsigned? Json.integer? Json.nat
  simp only [guard, Option.bind_eq_bind, Option.bind_some, if_pos hrange]
  rfl

theorem decodeUInt64_nat (n : UInt64) : decodeUInt64 (.nat n.toNat) = some n := by
  rw [decodeUInt64, unsigned?_nat n.toNat_lt_size]
  exact congrArg some UInt64.ofNat_toNat

def encodeTime : Option UtcTime → Json
  | none => .null
  | some t => .text (Rfc3339.print t)

/-- A time decodes from its encoding, and so does its absence. -/
theorem decodeTime_encodeTime (t : Option UtcTime) : decodeTime (encodeTime t) = some t := by
  cases t with
  | none => rfl
  | some t =>
    simp only [encodeTime, decodeTime, Json.string?, Option.bind_eq_bind, Option.bind_some,
      Rfc3339.parse?_print, Option.pure_def]

theorem decodeTexts_array (texts : List String) :
    decodeTexts (.array (texts.map Json.text)) = some texts :=
  mapM_map_eq_some fun _ _ ↦ rfl

theorem decodeStatus_text (status : ConditionStatus) :
    decodeStatus (.text status.text) = some status := by
  cases status with
  | affirmed => rfl
  | denied => rfl
  | unknown => rfl

/-! ## Fields that may be missing -/

variable {encode : α → Json} {decode : Json → Option α} {default a : α} {field : Option Json}

/-- The field has the value as it is written, or is missing where the value is the default. -/
def Holds (encode : α → Json) (default a : α) (field : Option Json) : Prop :=
  field = some (encode a) ∨ field = none ∧ a = default

/-- A field that may be missing decodes to what the record holds, or to the default. -/
theorem Holds.optional_eq (h : Holds encode default a field)
    (hdecode : ∀ a, decode (encode a) = some a) : optional default decode field = some a := by
  rcases h with rfl | ⟨rfl, rfl⟩
  · exact hdecode a
  · rfl

end ControlLoop.Wire
