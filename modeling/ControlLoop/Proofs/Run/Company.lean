import ControlLoop.Run.Combine
import Mathlib.Logic.Hydra

/-!
# Companies of runs

Runs that share a world form a company. One of them at a time goes on until it waits again, and it
may be any one that has been woken; while there is none, the clock moves on to the first timer. What
comes of a company so depends on the order of its steps, which is left open here: an interleaving is
any sequence of steps. It cannot go on forever, since every run is finite.
-/

namespace ControlLoop

variable {α β : Type}

/-- The first of two timers is set if one of them is, and is not after it. -/
theorem Wake.exists_timer_or {u v : Wake} {due : Nat}
    (h : (∃ tick, u.timer = some tick ∧ tick ≤ due) ∨ ∃ tick, v.timer = some tick ∧ tick ≤ due) :
    ∃ tick, (u.or v).timer = some tick ∧ tick ≤ due := by
  unfold Wake.or
  rcases h with ⟨s, hu, hs⟩ | ⟨t, hv, ht⟩
  · rw [hu]
    cases v.timer with
    | none => exact ⟨s, rfl, hs⟩
    | some t => exact ⟨min s t, rfl, by omega⟩
  · rw [hv]
    cases u.timer with
    | none => exact ⟨t, rfl, ht⟩
    | some s => exact ⟨min s t, rfl, by omega⟩

theorem Wake.instant?_of_not_ready {u : Wake} {now : Instant} {w : World}
    (hidle : u.ready now w = false) : u.instant? now w = u.timer.map now.atTick := by
  unfold instant?
  rw [hidle, if_neg Bool.false_ne_true]

/-- A run in a company: it has its value, or it waits. -/
inductive Member (α : Type) where
  | done (value : α)
  | asleep (wake : Wake) (resume : Moment → World → Progress α)

namespace Progress

def member : Progress α → Member α
  | .finished a _ => .done a
  | .waiting _ u resume => .asleep u resume

end Progress

namespace Member

def wake : Member α → Wake
  | .done _ => {}
  | .asleep u _ => u

/-- What wakes the first of several members. -/
def wakeAll (members : List (Member α)) : Wake := members.foldr (fun t u ↦ t.wake.or u) {}

/-- The second member may become the first one by being resumed once. -/
inductive Resumed : Member α → Member α → Prop
  | intro (u : Wake) (resume : Moment → World → Progress α) (m : Moment) (w : World) :
    Resumed (resume m w).member (.asleep u resume)

theorem acc_member (p : Progress α) : Acc Resumed p.member := by
  induction p with
  | finished a w => exact .intro _ fun t ht ↦ nomatch ht
  | waiting w u resume ih =>
    refine .intro _ fun t ht ↦ ?_
    cases ht with
    | intro _ _ m w' => exact ih m w'

theorem wellFounded_resumed : WellFounded (Resumed (α := α)) := by
  refine ⟨fun t ↦ .intro t fun s hs ↦ ?_⟩
  cases hs with
  | intro u resume m w => exact acc_member (resume m w)

variable {members : List (Member α)} {now : Instant} {w : World} {t : Member α}

theorem ready_wakeAll (members : List (Member α)) (now : Instant) (w : World) :
    (wakeAll members).ready now w = members.any (·.wake.ready now w) := by
  induction members with
  | nil => rfl
  | cons t ts ih =>
    change (t.wake.or (wakeAll ts)).ready now w = _
    rw [Wake.ready_or, ih]
    rfl

theorem ready_eq_false_of_mem (hidle : (wakeAll members).ready now w = false) (ht : t ∈ members) :
    t.wake.ready now w = false := by
  rw [ready_wakeAll, List.any_eq_false] at hidle
  exact Bool.eq_false_iff.2 (hidle t ht)

/-- A company has a timer no later than the timer of any member. -/
theorem exists_timer_of_mem {due : Nat} (ht : t ∈ members) (hdue : t.wake.timer = some due) :
    ∃ tick, (wakeAll members).timer = some tick ∧ tick ≤ due := by
  induction members with
  | nil => exact nomatch ht
  | cons s ts ih =>
    change ∃ tick, (s.wake.or (wakeAll ts)).timer = some tick ∧ tick ≤ due
    rcases List.mem_cons.1 ht with rfl | hmem
    · exact Wake.exists_timer_or (.inl ⟨due, hdue, Nat.le_refl due⟩)
    · exact Wake.exists_timer_or (.inr (ih hmem))

end Member

namespace Run

/-- The run before it has started: it is woken at once. -/
def member (r : Run α) : Member α := .asleep (.atTick 0) r

end Run

structure Company (α : Type) where
  moment : Moment
  world : World
  members : List (Member α)

namespace Company

inductive Step : Company α → Company α → Prop
  | resume {m : Moment} {w : World} {before after : List (Member α)} {u : Wake}
    {resume : Moment → World → Progress α} (ready : u.ready m.now w) :
    Step ⟨m, w, before ++ .asleep u resume :: after⟩
      ⟨m, (resume m w).world, before ++ (resume m w).member :: after⟩
  | advance {m : Moment} {w : World} {members : List (Member α)} {tick : Nat}
    (idle : (Member.wakeAll members).ready m.now w = false)
    (timer : (Member.wakeAll members).timer = some tick) :
    Step ⟨m, w, members⟩ ⟨{ m with now := m.now.atTick tick }, w, members⟩

/-- The company after any number of steps. -/
def Interleaving : Company α → Company α → Prop := Relation.ReflTransGen Step

/-- Whichever steps are taken, they come to an end, and `P` holds there. -/
inductive Inevitably (P : Company α → Prop) : Company α → Prop
  | here {c : Company α} (holds : P c) : Inevitably P c
  | onward {c : Company α} (step : ∃ c', Step c c') (rest : ∀ c', Step c c' → Inevitably P c') :
    Inevitably P c

/-- Every member has its value. -/
def IsDone (c : Company α) : Prop := ∃ values : List α, c.members = values.map .done

/-- A company is done or has a member that sleeps. -/
theorem isDone_or_exists_asleep (c : Company α) :
    c.IsDone ∨ ∃ u resume, .asleep u resume ∈ c.members := by
  obtain ⟨m, w, members⟩ := c
  induction members with
  | nil => exact .inl ⟨[], rfl⟩
  | cons t ts ih =>
    cases t with
    | asleep u resume => exact .inr ⟨u, resume, List.mem_cons_self ..⟩
    | done a =>
      rcases ih with ⟨values, hvalues⟩ | ⟨u, resume, hmem⟩
      · exact .inl ⟨a :: values, congrArg (.done a :: ·) hvalues⟩
      · exact .inr ⟨u, resume, List.mem_cons_of_mem _ hmem⟩

def isReady (c : Company α) : Bool := (Member.wakeAll c.members).ready c.moment.now c.world

/-- A step replaces a member by one that it may become, or makes a member ready. -/
theorem Step.cutExpand_or_ready {c c' : Company α} (h : Step c c') :
    Relation.CutExpand Member.Resumed (↑c'.members : Multiset (Member α)) ↑c.members ∨
      c'.members = c.members ∧ c.isReady = false ∧ c'.isReady = true := by
  cases h with
  | @resume m w before after u resume hready =>
    refine .inl ?_
    have hsplit (t : Member α) :
        (↑(before ++ t :: after) : Multiset (Member α)) = ↑(before ++ after) + {t} := by
      rw [← Multiset.coe_singleton, Multiset.coe_add, Multiset.coe_eq_coe]
      exact List.perm_middle.trans (List.perm_append_singleton t _).symm
    rw [hsplit, hsplit]
    exact Relation.cutExpand_add_single _ (.intro u resume m w)
  | @advance m w members tick hidle htimer =>
    have hinstant : (Member.wakeAll members).instant? m.now w = some (m.now.atTick tick) := by
      rw [Wake.instant?_of_not_ready hidle, htimer, Option.map_some]
    exact .inr ⟨rfl, hidle, Wake.ready_of_instant? hinstant⟩

/-- An interleaving cannot go on forever. -/
theorem wellFounded_step : WellFounded fun c' c : Company α ↦ Step c c' := by
  have hresumed : WellFounded (Relation.CutExpand (Member.Resumed (α := α))) :=
    Member.wellFounded_resumed.cutExpand
  let rank (c : Company α) : Multiset (Member α) × Nat := (↑c.members, if c.isReady then 0 else 1)
  have hrank : WellFounded (InvImage (Prod.Lex (Relation.CutExpand Member.Resumed) (· < ·)) rank) :=
    InvImage.wf rank (hresumed.prod_lex wellFounded_lt)
  refine Subrelation.wf (fun {c' c} hstep ↦ ?_) hrank
  rcases hstep.cutExpand_or_ready with hless | ⟨hmembers, hidle, hready⟩
  · exact .left _ _ hless
  · have hrank' : rank c' = (↑c.members, 0) := by
      simp only [rank, hmembers, hready, if_true]
    have hrank : rank c = (↑c.members, 1) := by
      simp [rank, hidle]
    unfold InvImage
    rw [hrank, hrank']
    exact .right _ Nat.one_pos

/-- A company of which some member waits, each for something that comes, takes a step. -/
theorem exists_step {c : Company α} {u : Wake} {resume : Moment → World → Progress α}
    (hasleep : .asleep u resume ∈ c.members)
    (h : ∀ u resume, .asleep u resume ∈ c.members →
      (u.instant? c.moment.now c.world).isSome) : ∃ c', Step c c' := by
  obtain ⟨m, w, members⟩ := c
  cases hready : (Member.wakeAll members).ready m.now w with
  | true =>
    rw [Member.ready_wakeAll, List.any_eq_true] at hready
    obtain ⟨t, ht, hready⟩ := hready
    obtain ⟨before, after, rfl⟩ := List.append_of_mem ht
    cases t with
    | done a => exact nomatch hready
    | asleep u resume => exact ⟨_, .resume hready⟩
  | false =>
    have hidle : u.ready m.now w = false := Member.ready_eq_false_of_mem hready hasleep
    have hinstant := h u resume hasleep
    rw [Wake.instant?_of_not_ready hidle, Option.isSome_map] at hinstant
    obtain ⟨due, hdue⟩ := Option.isSome_iff_exists.1 hinstant
    obtain ⟨tick, htick, -⟩ := Member.exists_timer_of_mem hasleep hdue
    exact ⟨_, .advance hready htick⟩

/-- If there is a step wherever `P` does not hold yet, `P` comes to hold whichever steps are
taken. -/
theorem inevitably_of_step {P : Company α → Prop} {c : Company α}
    (h : ∀ c', c.Interleaving c' → P c' ∨ ∃ c'', Step c' c'') : Inevitably P c := by
  induction c using wellFounded_step.induction with
  | _ c ih =>
    rcases h c .refl with holds | hstep
    · exact .here holds
    · exact .onward hstep fun c' hc' ↦ ih c' hc' fun d hd ↦ h d (.head hc' hd)

end Company

end ControlLoop
