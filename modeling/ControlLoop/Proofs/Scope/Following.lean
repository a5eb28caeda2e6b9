import ControlLoop.Proofs.Run.Turns
import ControlLoop.Proofs.Scope.Within

/-!
# Members of a company and runs alone

If each member of a company is a run within a scope of its own, each follows the run that goes on
alone from a world that agrees on its scope: it stands where the other one stands or stood last, and
the two go the same way on. A step of another member leaves the scope alone, and the clock does not
move past the timer of a member that waits, so however the steps are interleaved each member comes
to what it comes to alone.
-/

namespace ControlLoop

variable {α : Type}

theorem Instant.atTick_atTick {now : Instant} {s t : Nat} (hs : now.tick ≤ s) (hst : s ≤ t) :
    (now.atTick s).atTick t = now.atTick t := by
  unfold atTick
  simp only [tick, nanosPerTick, mk.injEq] at *
  omega

namespace Wake

variable {u : Wake} {now : Instant} {w : World}

/-- A wait that is not over, begun again at an instant up to its timer, ends when it would have. -/
theorem instant?_atTick {tick : Nat} (hidle : u.ready now w = false) (htick : now.tick ≤ tick)
    (hdue : ∀ due, u.timer = some due → tick ≤ due) :
    u.instant? (now.atTick tick) w = u.instant? now w := by
  have hready : u.ready (now.atTick tick) w = u.timer.any (· ≤ tick) := by
    unfold ready at hidle ⊢
    rw [Bool.or_eq_false_iff] at hidle
    unfold timerFired
    rw [hidle.2, Bool.or_false, Instant.tick_atTick htick]
  rw [instant?_of_not_ready hidle]
  unfold instant?
  rw [hready]
  cases htimer : u.timer with
  | none => rw [Option.any_none, Option.map_none, Option.map_none, if_neg Bool.false_ne_true]
  | some due =>
    have hle : tick ≤ due := hdue due htimer
    rw [Option.any_some, Option.map_some, Option.map_some]
    by_cases hfires : due ≤ tick
    · rw [if_pos (decide_eq_true hfires), Nat.le_antisymm hle hfires]
    · rw [if_neg (mt of_decide_eq_true hfires), Instant.atTick_atTick htick hle]

end Wake

namespace Progress

/-- The value and the world that the run comes to when it goes on alone, if it comes to an end. -/
def result? (p : Progress α) (m : Moment) : Option (α × World) :=
  (p.settle m).map fun (a, w, _) ↦ (a, w)

variable {m : Moment} {w : World} {u : Wake} {resume : Moment → World → Progress α}

theorem result?_waiting_of_ready (h : u.ready m.now w) :
    (waiting w u resume).result? m = (resume m w).result? m := by
  have hinstant : u.instant? m.now w = some m.now := if_pos h
  unfold result?
  rw [settle, hinstant]

theorem result?_waiting_eq {m' : Moment} (hclock : m'.clock = m.clock)
    (h : u.instant? m'.now w = u.instant? m.now w) :
    (waiting w u resume).result? m' = (waiting w u resume).result? m := by
  unfold result?
  rw [settle, settle, h, hclock]

theorem instant?_ne_none_of_result? {result : α × World}
    (h : (waiting w u resume).result? m = some result) : (u.instant? m.now w).isSome := by
  cases hinstant : u.instant? m.now w with
  | some later => rfl
  | none =>
    simp only [result?, settle, hinstant] at h
    exact absurd h.symm (Option.some_ne_none result)

end Progress

/-- The member stands where a run stands that goes on alone and comes to `result`, and the two go
the same way on. -/
inductive Scope.Follows (d : Scope) (m : Moment) (w : World) (result : Option (α × World)) :
    Member α → Prop
  | done {a : α} {v : World} (agree : d.Agree w v) (result_eq : result = some (a, v)) :
    Follows d m w result (.done a)
  | asleep {u : Wake} {k l : Moment → World → Progress α} {v : World} (agree : d.Agree w v)
    (result_eq : result = (Progress.waiting v u l).result? m) (owns : d.OwnsTokens u.tokens)
    (resume : ∀ m x y, d.Agree x y → Progress.Alike d (fun _ ↦ True) x (k m x) (l m y)) :
    Follows d m w result (.asleep u k)

namespace Scope.Follows

variable {d : Scope} {m : Moment} {w x : World} {result : Option (α × World)} {t : Member α}

theorem of_alike {p q : Progress α} (h : Progress.Alike d (fun _ ↦ True) w p q) :
    d.Follows m p.world (q.result? m) p.member ∧ d.Spares w p.world := by
  cases h with
  | finished holds spares agree => exact ⟨.done agree rfl, spares⟩
  | waiting owns spares agree resume => exact ⟨.asleep agree rfl owns resume, spares⟩

/-- A run that has yet to start, in a world that agrees with the one in which it starts alone. -/
theorem start {r : Run α} {v : World} (hr : r.Within d fun _ ↦ True) (m : Moment)
    (hagree : d.Agree w v) : d.Follows m w ((r m v).result? m) r.member := by
  refine .asleep hagree ?_ d.ownsTokens_nil hr
  have hready : (Wake.atTick 0).ready m.now v := by
    simp [Wake.ready, Wake.timerFired, Wake.atTick]
  exact (Progress.result?_waiting_of_ready hready).symm

/-- What happens to the world out of the scope's sight changes nothing. -/
theorem of_agree (h : d.Follows m w result t) (hagree : d.Agree w x) :
    d.Follows m x result t := by
  cases h with
  | done agree result_eq => exact .done (hagree.symm.trans agree) result_eq
  | asleep agree result_eq owns resume =>
    exact .asleep (hagree.symm.trans agree) result_eq owns resume

/-- Time that passes up to the timer of the member changes nothing. -/
theorem advance {tick : Nat} (h : d.Follows m w result t) (hidle : t.wake.ready m.now w = false)
    (htick : m.now.tick ≤ tick) (hdue : ∀ due, t.wake.timer = some due → tick ≤ due) :
    d.Follows { m with now := m.now.atTick tick } w result t := by
  cases h with
  | done agree result_eq => exact .done agree result_eq
  | @asleep u k l v agree result_eq owns resume =>
    refine .asleep agree ?_ owns resume
    have hidle' : u.ready m.now v = false := by
      rw [← agree.ready_eq owns]
      exact hidle
    have hsame : (Progress.waiting v u l).result? { m with now := m.now.atTick tick } =
        (Progress.waiting v u l).result? m :=
      Progress.result?_waiting_eq rfl (Wake.instant?_atTick hidle' htick hdue)
    rw [result_eq, hsame]

/-- A member that is resumed still follows, and has changed nothing out of its scope. -/
theorem resume {u : Wake} {k : Moment → World → Progress α}
    (h : d.Follows m w result (.asleep u k)) (hready : u.ready m.now w) :
    d.Follows m (k m w).world result (k m w).member ∧ d.Spares w (k m w).world := by
  cases h with
  | @asleep u k l v agree result_eq owns resume =>
    have hready' : u.ready m.now v := by
      rw [← agree.ready_eq owns]
      exact hready
    rw [result_eq, Progress.result?_waiting_of_ready hready']
    exact of_alike (resume m w v agree)

/-- A member whose run comes to an end alone waits for something that comes. -/
theorem instant?_isSome {u : Wake} {k : Moment → World → Progress α}
    (h : d.Follows m w result (.asleep u k)) (hresult : result.isSome) :
    (u.instant? m.now w).isSome := by
  cases h with
  | @asleep u k l v agree result_eq owns resume =>
    obtain ⟨ended, hended⟩ := Option.isSome_iff_exists.1 hresult
    have hsame : u.instant? m.now w = u.instant? m.now v := by
      unfold Wake.instant?
      rw [agree.ready_eq owns]
    rw [hsame]
    exact Progress.instant?_ne_none_of_result? (result_eq.symm.trans hended)

end Scope.Follows

end ControlLoop
