import ControlLoop.Proofs.Condition.Recording

/-!
# Flips

Of conditions of one type recorded one after the other those flip the status that differ from the
one before them. The last flip gives the transition time, its own or the clock's, so recording the
same conditions a second time finds the same last flip and moves its time to the clock of that
moment, unless the flip has a time of its own.
-/

namespace ControlLoop.Condition

/-- The last condition whose status differs from the status before it, which is at first the
given. -/
def lastFlipFrom? : ConditionStatus → List Condition → Option Condition
  | _, [] => none
  | status, c :: cs =>
    (lastFlipFrom? c.status cs).or (if c.status = status then none else some c)

/-- The last condition whose status differs from that of the one before it in the list. -/
def lastFlip? : List Condition → Option Condition
  | [] => none
  | c :: cs => lastFlipFrom? c.status cs

def revisedAll (e : Condition) (clock : Stamp) (cs : List Condition) : Condition :=
  cs.foldl (fun e c ↦ e.revised c clock) e

variable {e c d : Condition} {clock later : Stamp} {cs : List Condition} {status : ConditionStatus}

/-- No condition flips the status exactly if all of them have it. -/
theorem lastFlipFrom?_eq_none_iff :
    lastFlipFrom? status cs = none ↔ ∀ c ∈ cs, c.status = status := by
  induction cs generalizing status with
  | nil => simp [lastFlipFrom?]
  | cons c cs ih =>
    rw [lastFlipFrom?, Option.or_eq_none_iff, ih, List.forall_mem_cons]
    by_cases h : c.status = status
    · simp [h]
    · simp [h]

theorem recordedAll_some : recordedAll clock (some e) cs = some (e.revisedAll clock cs) := by
  induction cs generalizing e with
  | nil => rfl
  | cons c cs ih => exact ih

/-- A condition that is set once more at a later time keeps its own time. -/
theorem revised_stamped (c : Condition) (clock later : Stamp) :
    (c.stamped clock).revised c later = c.stamped clock := by
  rw [revised_eq_self_iff]
  simp [differs, stamped]

/-- A type is found after conditions of it are recorded as if the first one had been there
before. -/
theorem recordedAll_cons (old : Option Condition) :
    recordedAll clock old (c :: cs) =
      some ((old.getD (c.stamped clock)).revisedAll clock (c :: cs)) := by
  cases old with
  | some e => exact recordedAll_some
  | none =>
    change recordedAll clock (some (c.stamped clock)) cs = _
    rw [recordedAll_some, Option.getD_none, revisedAll, revisedAll, List.foldl_cons,
      revised_stamped]

/-- The time of an entry is that of the last flip, or stays if nothing flips it. -/
theorem lastTransition_revisedAll :
    (e.revisedAll clock cs).lastTransition =
      match lastFlipFrom? e.status cs with
      | some flip => some (flip.lastTransition.getD clock)
      | none => e.lastTransition := by
  induction cs generalizing e with
  | nil => rfl
  | cons c cs ih =>
    change ((e.revised c clock).revisedAll clock cs).lastTransition = _
    have hstatus : (e.revised c clock).status = c.status := rfl
    rw [ih, hstatus, lastFlipFrom?]
    cases lastFlipFrom? c.status cs with
    | some flip => rfl
    | none =>
      by_cases h : c.status = e.status
      · simp [revised, h]
      · have h' : ¬ e.status = c.status := fun h' ↦ h h'.symm
        simp [revised, h, h']

theorem type_revisedAll : (e.revisedAll clock cs).type = e.type := by
  induction cs generalizing e with
  | nil => rfl
  | cons c cs ih => exact ih

theorem status_revisedAll (h : ∀ c ∈ cs, c.status = e.status) :
    (e.revisedAll clock cs).status = e.status := by
  induction cs generalizing e with
  | nil => rfl
  | cons c cs ih =>
    obtain ⟨hc, hcs⟩ := List.forall_mem_cons.1 h
    have hstatus : (e.revised c clock).status = e.status := hc
    change ((e.revised c clock).revisedAll clock cs).status = e.status
    rw [ih (by rwa [hstatus]), hstatus]

theorem revisedAll_concat :
    e.revisedAll clock (cs ++ [c]) = (e.revisedAll clock cs).revised c clock := by
  rw [revisedAll, List.foldl_append]
  rfl

/-- Apart from the transition time all is decided by the last condition recorded. -/
theorem revised_eq_revised_iff (htype : d.type = e.type) :
    d.revised c later = e.revised c clock ↔
      (d.revised c later).lastTransition = (e.revised c clock).lastTransition := by
  simp [revised, htype]

/-- The status at the end of a list adds no flip at its beginning. -/
theorem lastFlipFrom?_status_revisedAll (h : cs ≠ []) :
    lastFlipFrom? (e.revisedAll clock cs).status cs = lastFlip? cs := by
  cases cs with
  | nil => exact absurd rfl h
  | cons c cs =>
    rw [lastFlipFrom?, lastFlip?]
    cases hflip : lastFlipFrom? c.status cs with
    | some flip => rfl
    | none =>
      have hsame : ∀ d ∈ cs, d.status = (e.revised c clock).status :=
        lastFlipFrom?_eq_none_iff.1 hflip
      have hstatus : (e.revisedAll clock (c :: cs)).status = c.status := status_revisedAll hsame
      rw [hstatus, if_pos rfl]
      rfl

theorem lastFlipFrom?_of_lastFlip? {flip : Condition} (h : lastFlip? cs = some flip) :
    lastFlipFrom? status cs = some flip := by
  cases cs with
  | nil => exact nomatch h
  | cons c cs =>
    rw [lastFlipFrom?, show lastFlipFrom? c.status cs = some flip from h]
    rfl

/-- Recording the same conditions again at another time changes nothing exactly if the last flip
among them, if there is one, has a time of its own. -/
theorem revisedAll_revisedAll_eq_iff :
    (e.revisedAll clock cs).revisedAll later cs = e.revisedAll clock cs ↔
      clock = later ∨ ∀ flip, lastFlip? cs = some flip → flip.lastTransition.isSome := by
  by_cases hne : cs = []
  · subst hne
    simp [revisedAll, lastFlip?]
  have htimes : (e.revisedAll clock cs).revisedAll later cs = e.revisedAll clock cs ↔
      ((e.revisedAll clock cs).revisedAll later cs).lastTransition =
        (e.revisedAll clock cs).lastTransition := by
    have hlast (f : Condition) (time : Stamp) :
        f.revisedAll time cs =
          (f.revisedAll time cs.dropLast).revised (cs.getLast hne) time := by
      rw [← revisedAll_concat, List.dropLast_concat_getLast hne]
    rw [hlast (e.revisedAll clock cs), hlast e]
    apply revised_eq_revised_iff
    rw [type_revisedAll, type_revised]
  rw [htimes, lastTransition_revisedAll, lastFlipFrom?_status_revisedAll hne]
  cases hflip : lastFlip? cs with
  | none => simp
  | some flip =>
    rw [lastTransition_revisedAll, lastFlipFrom?_of_lastFlip? hflip]
    cases htime : flip.lastTransition with
    | none => simp [htime, eq_comm (a := later)]
    | some time => simp [htime]

end ControlLoop.Condition
