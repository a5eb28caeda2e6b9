import ControlLoop.Proofs.Condition.Flips
import ControlLoop.Proofs.StatusUpdate.Application

/-!
# Repeating a status update

A second application finds nothing stale and every configured type in its place, so it can only
change what is found under a type. It does so exactly if the clock has moved on and the configured
conditions of some type flip the status, the last time without a time of their own: then the
transition time of that type moves with the clock at every application.
-/

namespace ControlLoop.StatusUpdate

variable (u : StatusUpdate) {s : Conditions} {clock later : Stamp} {type : String}

/-- Of the configured conditions of a type the last one that differs in status from the one
before. -/
def lastFlip? (type : String) : Option Condition :=
  Condition.lastFlip? (u.conditions.filter (·.type = type))

/-- Whether every last flip of a type has a transition time of its own. -/
def TimesItsFlips : Prop :=
  ∀ type flip, u.lastFlip? type = some flip → flip.lastTransition.isSome

/-- An update that gives each type one status has no flips. -/
theorem timesItsFlips_of_status
    (h : ∀ c ∈ u.conditions, ∀ d ∈ u.conditions, c.type = d.type → c.status = d.status) :
    u.TimesItsFlips := by
  intro type flip hflip
  have hmem (c : Condition) (hc : c ∈ u.conditions.filter (·.type = type)) :
      c ∈ u.conditions ∧ c.type = type := by simpa using hc
  unfold lastFlip? at hflip
  revert hflip hmem
  cases u.conditions.filter (·.type = type) with
  | nil =>
    intro hflip
    exact nomatch hflip
  | cons c cs =>
    intro hflip hmem
    obtain ⟨hc, hctype⟩ := hmem c (List.mem_cons_self ..)
    have hnone : Condition.lastFlip? (c :: cs) = none := by
      apply Condition.lastFlipFrom?_eq_none_iff.2
      intro d hd
      obtain ⟨hd, hdtype⟩ := hmem d (List.mem_cons_of_mem _ hd)
      exact h d hd c hc (hdtype.trans hctype.symm)
    rw [hnone] at hflip
    exact nomatch hflip

theorem setsType_iff : u.setsType type ↔ ∃ c ∈ u.conditions, c.type = type := by
  simp [setsType]

/-- Stale are the types present that are neither kept nor set. -/
theorem mem_stale_iff :
    type ∈ u.stale s ↔
      type ∈ s.types ∧ u.retention.keeps type = false ∧ u.setsType type = false := by
  simp [stale]

/-- The types left are the kept ones that were there, and those that are set. -/
theorem mem_types_conditionsAfter :
    type ∈ (u.conditionsAfter clock s).types ↔
      type ∈ s.types ∧ u.retention.keeps type ∨ u.setsType type := by
  rw [conditionsAfter, Conditions.mem_types_setAll, Conditions.types_removeAll, ← setsType_iff]
  simp [mem_stale_iff]
  grind

/-- An update leaves nothing that it would remove. -/
theorem stale_conditionsAfter : u.stale (u.conditionsAfter clock s) = [] := by
  rw [List.eq_nil_iff_forall_not_mem]
  intro type hstale
  rw [mem_stale_iff, mem_types_conditionsAfter] at hstale
  grind

/-- Applied once more, an update only sets its conditions again. -/
theorem conditionsAfter_again :
    u.conditionsAfter later (u.conditionsAfter clock s) =
      (u.conditionsAfter clock s).setAll later u.conditions := by
  rw [conditionsAfter, stale_conditionsAfter]
  rfl

/-- Applied once more, an update changes no types. -/
theorem types_conditionsAfter_again :
    (u.conditionsAfter later (u.conditionsAfter clock s)).types =
      (u.conditionsAfter clock s).types := by
  rw [conditionsAfter_again]
  apply Conditions.types_setAll_of_mem
  intro c hc
  rw [mem_types_conditionsAfter]
  exact .inr ((u.setsType_iff).2 ⟨c, hc, rfl⟩)

theorem find?_conditionsAfter_again_eq_iff :
    (u.conditionsAfter later (u.conditionsAfter clock s)).find? type =
        (u.conditionsAfter clock s).find? type ↔
      clock = later ∨ ∀ flip, u.lastFlip? type = some flip → flip.lastTransition.isSome := by
  have hfirst : (u.conditionsAfter clock s).find? type =
      Condition.recordedAll clock ((s.removeAll (u.stale s)).find? type)
        (u.conditions.filter (·.type = type)) := Conditions.find?_setAll
  rw [conditionsAfter_again, Conditions.find?_setAll, hfirst, lastFlip?]
  generalize (s.removeAll (u.stale s)).find? type = old
  cases u.conditions.filter (·.type = type) with
  | nil => simp [Condition.recordedAll, Condition.lastFlip?]
  | cons c cs =>
    have hrecorded : Condition.recordedAll clock old (c :: cs) =
        some ((old.getD (c.stamped clock)).revisedAll clock (c :: cs)) :=
      Condition.recordedAll_cons old
    rw [hrecorded, Condition.recordedAll_some, Option.some.injEq]
    exact Condition.revisedAll_revisedAll_eq_iff

/-- Applied once more, an update changes nothing exactly if the clock stands or its flips have times
of their own. -/
theorem conditionsAfter_again_eq_iff :
    u.conditionsAfter later (u.conditionsAfter clock s) = u.conditionsAfter clock s ↔
      clock = later ∨ u.TimesItsFlips := by
  constructor
  · intro hsame
    by_cases hclock : clock = later
    · exact .inl hclock
    · refine .inr fun type ↦ ?_
      have hfind := u.find?_conditionsAfter_again_eq_iff.1
        (congrArg (Conditions.find? type) hsame)
      exact hfind.resolve_left hclock
  · intro h
    apply Conditions.eq_of_types_of_find?
    · exact u.types_conditionsAfter_again
    · intro type
      exact u.find?_conditionsAfter_again_eq_iff.2 (h.imp_right fun htimed ↦ htimed type)

/-- Applying an update to the object that it left leaves the same conditions, in the same order and
with the same transition times, exactly if the clock shows the same time or the update times its
flips. -/
theorem conditions_apply_apply_eq_iff (span span' : Option Span) (ctx ctx' : Context)
    (state : State) (m m' : Moment) (w w' : World) :
    let first := (u.apply span ctx state m w).1.state
    let second := (u.apply span' ctx' first m' w').1.state
    second.object.conditions = first.object.conditions ↔
      m.clock = m'.clock ∨ u.TimesItsFlips := by
  intro first second
  have hfirst : first.object.conditions = u.conditionsAfter m.clock state.object.conditions :=
    u.conditions_apply span ctx state m w
  have hsecond : second.object.conditions =
      u.conditionsAfter m'.clock first.object.conditions :=
    u.conditions_apply span' ctx' first m' w'
  rw [hsecond, hfirst]
  exact u.conditionsAfter_again_eq_iff

/-- Two conditions of one type, the later taking the status of the earlier back. -/
def flipping : StatusUpdate where
  conditions := [{ type := "Ready", status := .affirmed }, { type := "Ready", status := .denied }]

/-- Both writes of the update succeed and the second one moves the transition time. -/
theorem flipping_moves_transition :
    let object : Object := ⟨"Lease", { name := "a" }, ∅, ""⟩
    let first := flipping.apply none (.background none) { object } ⟨⟨0⟩, .read 1⟩
      { store := Store.insert ∅ object }
    let second := flipping.apply none (.background none) first.1.state ⟨⟨0⟩, .read 2⟩ first.2
    first.1.signal = flipping.successSignal ∧ second.1.signal = flipping.successSignal ∧
      second.1.state.object.conditions ≠ first.1.state.object.conditions := by
  decide +kernel

end ControlLoop.StatusUpdate
