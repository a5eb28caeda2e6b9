import ControlLoop.Proofs.Run.Company
import ControlLoop.Proofs.Run.Joining

/-!
# Joined runs take turns

Joined runs are a company. When the joint run is resumed each of its members has one turn, in their
order, and goes on in it if it has been woken. So a joint run that settles does so by steps of the
company, and it settles if the company never gets stuck.
-/

namespace ControlLoop

variable {α β : Type} {m : Moment} {w x : World}

namespace Member

/-- The member in a world. -/
def progress (w : World) : Member α → Progress α
  | .done a => .finished a w
  | .asleep u resume => .waiting w u resume

/-- The member when it is polled: it goes on if it has been woken. -/
def turn (m : Moment) (w : World) : Member α → Progress α
  | .done a => .finished a w
  | .asleep u resume => if u.ready m.now w then resume m w else .waiting w u resume

def map (f : α → β) : Member α → Member β
  | .done a => .done (f a)
  | .asleep u resume => .asleep u fun m w ↦ (resume m w).map f

/-- Two members side by side. -/
def both : Member α → Member β → Member (α × β)
  | .done a, s => s.map (a, ·)
  | .asleep u resume, .done b => .asleep u fun m w ↦ (resume m w).both fun w' ↦ .finished b w'
  | .asleep u resume, .asleep v next => .asleep (u.or v) fun m w ↦
    if u.ready m.now w then (resume m w).both (turn m · (.asleep v next))
    else .beside u (fun m w' rest ↦ (resume m w').both rest) (next m w)

theorem turn_of_ready {u : Wake} {resume : Moment → World → Progress α} (h : u.ready m.now w) :
    (asleep u resume).turn m w = resume m w := if_pos h

theorem turn_of_not_ready {u : Wake} {resume : Moment → World → Progress α}
    (h : ¬ u.ready m.now w) : (asleep u resume).turn m w = .waiting w u resume := if_neg h

theorem progress_map (f : α → β) (t : Member α) : (t.map f).progress w = (t.progress w).map f := by
  cases t <;> rfl

theorem progress_both (t : Member α) (s : Member β) :
    (t.both s).progress w = (t.progress w).both s.progress := by
  cases t with
  | done a => exact s.progress_map (a, ·)
  | asleep u resume =>
    cases s with
    | done b => rfl
    | asleep v next => rfl

theorem turn_map (f : α → β) (t : Member α) : (t.map f).turn m w = (t.turn m w).map f := by
  cases t with
  | done a => rfl
  | asleep u resume =>
    unfold map
    by_cases hready : u.ready m.now w
    · rw [turn_of_ready hready, turn_of_ready hready]
    · rw [turn_of_not_ready hready, turn_of_not_ready hready]
      rfl

/-- When two members side by side are polled, first the one has its turn and then the other. -/
theorem turn_both (t : Member α) (s : Member β) :
    (t.both s).turn m w = (t.turn m w).both (s.turn m ·) := by
  cases t with
  | done a => exact s.turn_map (a, ·)
  | asleep u resume =>
    cases s with
    | done b =>
      unfold both
      by_cases hleft : u.ready m.now w
      · rw [turn_of_ready hleft, turn_of_ready hleft]
        rfl
      · rw [turn_of_not_ready hleft, turn_of_not_ready hleft]
        rfl
    | asleep v next =>
      unfold both
      by_cases hleft : u.ready m.now w
      · have hwoken : (u.or v).ready m.now w := by
          rw [Wake.ready_or, hleft, Bool.true_or]
        rw [turn_of_ready hwoken, turn_of_ready hleft, if_pos hleft]
      · rw [turn_of_not_ready hleft]
        by_cases hright : v.ready m.now w
        · have hwoken : (u.or v).ready m.now w := by
            rw [Wake.ready_or, hright, Bool.or_true]
          rw [turn_of_ready hwoken, if_neg hleft]
          change _ = Progress.beside u _ ((asleep v next).turn m w)
          rw [turn_of_ready hright]
        · have hasleep : ¬ (u.or v).ready m.now w := by
            rw [Wake.ready_or, Bool.or_eq_true]
            exact not_or.2 ⟨hleft, hright⟩
          rw [turn_of_not_ready hasleep]
          change _ = Progress.beside u _ ((asleep v next).turn m w)
          rw [turn_of_not_ready hright]
          rfl

theorem wake_map (f : α → β) (t : Member α) : (t.map f).wake = t.wake := by
  cases t <;> rfl

theorem wake_both (t : Member α) (s : Member β) : (t.both s).wake = t.wake.or s.wake := by
  cases t with
  | done a => exact s.wake_map (a, ·)
  | asleep u resume =>
    cases s with
    | done b =>
      change u = u.or {}
      obtain ⟨timer, tokens⟩ := u
      cases timer <;> simp [Wake.or]
    | asleep v next => rfl

/-- Several members side by side. -/
def joint : List (Member α) → Member (List α)
  | [] => .done []
  | t :: ts => (t.both (joint ts)).map fun (a, as) ↦ a :: as

/-- Each of several members has its turn, from the world that the one before it has left. -/
def turns (m : Moment) : List (Member α) → World → List (Member α) × World
  | [], w => ([], w)
  | t :: ts, w =>
    let (rest, w') := turns m ts (t.turn m w).world
    ((t.turn m w).member :: rest, w')

/-- A join is woken by whatever wakes a member. -/
theorem wake_joint (members : List (Member α)) : (joint members).wake = wakeAll members := by
  induction members with
  | nil => rfl
  | cons t ts ih =>
    unfold joint
    rw [wake_map, wake_both, ih]
    rfl

theorem joint_map_done (values : List α) : joint (values.map .done) = .done values := by
  induction values with
  | nil => rfl
  | cons a as ih =>
    change ((done a).both (joint (as.map .done))).map _ = _
    rw [ih]
    rfl

/-- A join is over with some values only if each member is over with its own. -/
theorem eq_map_done_of_joint {members : List (Member α)} {values : List α}
    (h : joint members = .done values) : members = values.map .done := by
  induction members generalizing values with
  | nil =>
    cases h
    rfl
  | cons t ts ih =>
    unfold joint at h
    cases hts : joint ts with
    | done as =>
      rw [hts] at h
      cases t with
      | done a =>
        cases h
        rw [ih hts]
        rfl
      | asleep u resume => cases h
    | asleep v next =>
      rw [hts] at h
      cases t with
      | done a => cases h
      | asleep u resume => cases h

theorem both_progress {p : Progress α} {right : World → Progress β} {s : Member β}
    (h : right p.world = s.progress w) : p.both right = (p.member.both s).progress w := by
  rw [progress_both]
  cases p with
  | finished a x => exact congrArg (Progress.map (a, ·)) h
  | waiting x u resume => exact congrArg (Progress.beside u _) h

/-- When the joint run is polled, each of its members has its turn. -/
theorem turn_joint (members : List (Member α)) (m : Moment) (w : World) :
    (joint members).turn m w = (joint (turns m members w).1).progress (turns m members w).2 := by
  induction members generalizing w with
  | nil => rfl
  | cons t ts ih =>
    unfold joint turns
    rw [turn_map, turn_both, both_progress (ih (t.turn m w).world), ← progress_map]

end Member

namespace Run

theorem turn_member (r : Run α) (m : Moment) (w : World) : r.member.turn m w = r m w := by
  apply Member.turn_of_ready
  simp [Wake.ready, Wake.timerFired, Wake.atTick]

/-- To start joined runs is to poll them for the first time. -/
theorem all_eq_turn (rs : List (Run α)) (m : Moment) (w : World) :
    all rs m w = (Member.joint (rs.map member)).turn m w := by
  induction rs generalizing w with
  | nil => rfl
  | cons r rs ih =>
    have hrest : (fun w' ↦ all rs m w') = (Member.joint (rs.map member)).turn m := funext ih
    calc all (r :: rs) m w
        = ((r m w).both fun w' ↦ all rs m w').map fun (a, as) ↦ a :: as :=
          map_apply _ (both r (all rs)) m w
      _ = ((r.member.turn m w).both ((Member.joint (rs.map member)).turn m)).map
            fun (a, as) ↦ a :: as := by
          rw [hrest, turn_member]
      _ = (Member.joint ((r :: rs).map member)).turn m w := by
          rw [List.map_cons, Member.joint, Member.turn_map, Member.turn_both]

end Run

namespace Company

/-- Turns of the members in order are one interleaving of them. -/
theorem interleaving_turns (before members : List (Member α)) (m : Moment) (w : World) :
    Interleaving ⟨m, w, before ++ members⟩
      ⟨m, (Member.turns m members w).2, before ++ (Member.turns m members w).1⟩ := by
  induction members generalizing before w with
  | nil => exact .refl
  | cons t ts ih =>
    have hturn : Interleaving ⟨m, w, before ++ t :: ts⟩
        ⟨m, (t.turn m w).world, before ++ (t.turn m w).member :: ts⟩ := by
      cases t with
      | done a => exact .refl
      | asleep u resume =>
        by_cases hready : u.ready m.now w
        · rw [Member.turn_of_ready hready]
          exact .single (.resume hready)
        · rw [Member.turn_of_not_ready hready]
          exact .refl
    have hrest := ih (before ++ [(t.turn m w).member]) (t.turn m w).world
    rw [List.append_assoc, List.append_assoc] at hrest
    exact hturn.trans hrest

/-- A step is taken at the instant at which the company is woken. -/
theorem Step.exists_instant {c c' : Company α} (h : Step c c') :
    ∃ later, (Member.wakeAll c.members).instant? c.moment.now c.world = some later := by
  cases h with
  | @resume m w before after u resume hready =>
    refine ⟨m.now, if_pos ?_⟩
    rw [Member.ready_wakeAll, List.any_eq_true]
    exact ⟨.asleep u resume, by simp, hready⟩
  | @advance m w members tick hidle htimer =>
    refine ⟨m.now.atTick tick, ?_⟩
    rw [Wake.instant?_of_not_ready hidle, htimer, Option.map_some]

/-- When all wait, time goes on to the first instant that wakes one. -/
theorem interleaving_of_instant {members : List (Member α)} {m : Moment} {w : World}
    {later : Instant} (h : (Member.wakeAll members).instant? m.now w = some later) :
    Interleaving ⟨m, w, members⟩ ⟨{ m with now := later }, w, members⟩ := by
  cases hready : (Member.wakeAll members).ready m.now w with
  | true =>
    unfold Wake.instant? at h
    rw [if_pos hready] at h
    cases h
    exact .refl
  | false =>
    rw [Wake.instant?_of_not_ready hready] at h
    obtain ⟨tick, htimer, rfl⟩ := Option.map_eq_some_iff.1 h
    exact .single (.advance hready htimer)

/-- A joint run that settles does so by steps of the company, and one that does not gets stuck. -/
theorem settle_joint (members : List (Member α)) (m : Moment) (w : World) :
    (∃ values w' now, ((Member.joint members).progress w).settle m = some (values, w', now) ∧
      Interleaving ⟨m, w, members⟩ ⟨{ m with now }, w', values.map .done⟩) ∨
    ((Member.joint members).progress w).settle m = none ∧
      ∃ c, Interleaving ⟨m, w, members⟩ c ∧ ¬ c.IsDone ∧ ¬ ∃ c', Step c c' := by
  generalize hp : (Member.joint members).progress w = p
  induction p generalizing members m w with
  | finished values x =>
    cases hjoint : Member.joint members with
    | asleep u resume =>
      rw [hjoint] at hp
      cases hp
    | done values' =>
      rw [hjoint] at hp
      cases hp
      refine .inl ⟨values, x, m.now, rfl, ?_⟩
      rw [Member.eq_map_done_of_joint hjoint]
      exact .refl
  | waiting x u resume ih =>
    cases hjoint : Member.joint members with
    | done values =>
      rw [hjoint] at hp
      cases hp
    | asleep u' resume' =>
      rw [hjoint] at hp
      cases hp
      have hwake : u = Member.wakeAll members := by rw [← Member.wake_joint, hjoint, Member.wake]
      cases hinstant : u.instant? m.now x with
      | none =>
        refine .inr ⟨by simp only [Progress.settle, hinstant], _, .refl, ?_, ?_⟩
        · rintro ⟨values, rfl⟩
          rw [Member.joint_map_done] at hjoint
          cases hjoint
        · rintro ⟨c', hstep⟩
          obtain ⟨later, hlater⟩ := hstep.exists_instant
          rw [hwake, hlater] at hinstant
          cases hinstant
      | some later =>
        let resumed := Member.turns { m with now := later } members x
        have hturn : (Member.joint resumed.1).progress resumed.2 =
            resume { m with now := later } x := by
          rw [← Member.turn_joint, hjoint, Member.turn_of_ready (Wake.ready_of_instant? hinstant)]
        have hpath : Interleaving ⟨m, x, members⟩
            ⟨{ m with now := later }, resumed.2, resumed.1⟩ :=
          (interleaving_of_instant (hwake ▸ hinstant)).trans (interleaving_turns [] members _ x)
        simp only [Progress.settle, hinstant]
        rcases ih _ x resumed.1 _ resumed.2 hturn with
          ⟨values, w', now, hsettle, hend⟩ | ⟨hsettle, c, hc, hstuck⟩
        · exact .inl ⟨values, w', now, hsettle, hpath.trans hend⟩
        · exact .inr ⟨hsettle, c, hpath.trans hc, hstuck⟩

/-- The same of joined runs from their start. -/
theorem settle_all (rs : List (Run α)) (m : Moment) (w : World) :
    (∃ values w' now, (Run.all rs).settle m w = some (values, w', now) ∧
      Interleaving ⟨m, w, rs.map Run.member⟩ ⟨{ m with now }, w', values.map .done⟩) ∨
    (Run.all rs).settle m w = none ∧
      ∃ c, Interleaving ⟨m, w, rs.map Run.member⟩ c ∧ ¬ c.IsDone ∧ ¬ ∃ c', Step c c' := by
  let started := Member.turns m (rs.map Run.member) w
  have hstart : Interleaving ⟨m, w, rs.map Run.member⟩ ⟨m, started.2, started.1⟩ :=
    interleaving_turns [] (rs.map Run.member) m w
  have hall : (Run.all rs).settle m w =
      ((Member.joint started.1).progress started.2).settle m := by
    unfold Run.settle
    rw [Run.all_eq_turn, Member.turn_joint]
  rw [hall]
  rcases settle_joint started.1 m started.2 with
    ⟨values, w', now, hsettle, hend⟩ | ⟨hsettle, c, hc, hstuck⟩
  · exact .inl ⟨values, w', now, hsettle, hstart.trans hend⟩
  · exact .inr ⟨hsettle, c, hstart.trans hc, hstuck⟩

end Company

end ControlLoop
