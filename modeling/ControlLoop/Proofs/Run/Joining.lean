import ControlLoop.Proofs.Run.Polling
import Mathlib.Data.List.Forall2

/-!
# Joined runs are polled

When joined runs come to their ends, each of them has been polled under a schedule of its own: the
moments at which its turn came, with the worlds that the others had left by then. So what holds of a
run under every schedule holds of it beside others.
-/

namespace ControlLoop

variable {α β γ : Type} {a : α} {b : β} {c : γ} {m : Moment} {w : World} {u : Wake}

namespace Progress

/-- The run comes to the value under some schedule. -/
def Reaches (p : Progress α) (m : Moment) (a : α) : Prop :=
  ∃ s m' w rest, p.polled m s = .finished a m' w rest

theorem reaches_finished_iff {a' : α} : (finished a' w).Reaches m a ↔ a' = a := by
  constructor
  · rintro ⟨s, m', w', rest, hs⟩
    rw [polled_finished] at hs
    cases hs
    rfl
  · rintro rfl
    exact ⟨[], m, w, [], rfl⟩

/-- A waiting run goes on from a poll that finds it woken. -/
theorem reaches_waiting_iff {resume : Moment → World → Progress α} :
    (waiting w u resume).Reaches m a ↔
      ∃ m₁ w₁, u.ready m₁.now w₁ ∧ (resume m₁ w₁).Reaches m₁ a := by
  constructor
  · rintro ⟨s, m', w', rest, hs⟩
    induction s generalizing m w with
    | nil => exact nomatch hs
    | cons poll polls ih =>
      obtain ⟨m₁, w₁⟩ := poll
      by_cases hready : u.ready m₁.now w₁
      · rw [polled_cons_of_ready hready] at hs
        exact ⟨m₁, w₁, hready, polls, m', w', rest, hs⟩
      · rw [polled_cons_of_not_ready hready] at hs
        exact ih hs
  · rintro ⟨m₁, w₁, hready, s, m', w', rest, hs⟩
    exact ⟨(m₁, w₁) :: s, m', w', rest, (polled_cons_of_ready hready).trans hs⟩

/-- A run reaches what is made of the values that it reaches. -/
theorem reaches_map_iff {f : α → β} {p : Progress α} :
    (p.map f).Reaches m b ↔ ∃ a, p.Reaches m a ∧ f a = b := by
  induction p generalizing m with
  | finished a w =>
    unfold Progress.map
    simp only [reaches_finished_iff, exists_eq_left']
  | waiting w u resume ih =>
    unfold Progress.map
    simp only [reaches_waiting_iff, ih]
    grind

variable {resumeLeft : Moment → World → (World → Progress β) → Progress γ} {q : Progress β}

/-- The waiting one of two joined runs is resumed, whatever the other one does before. -/
theorem Reaches.left_of_beside (h : (beside u resumeLeft q).Reaches m c) :
    ∃ m₁ w₁ next, u.ready m₁.now w₁ ∧ (resumeLeft m₁ w₁ next).Reaches m₁ c := by
  induction q generalizing m with
  | finished b w =>
    obtain ⟨m₁, w₁, hready, hrest⟩ := reaches_waiting_iff.1 h
    exact ⟨m₁, w₁, _, hready, hrest⟩
  | waiting w v resume ih =>
    obtain ⟨m₁, w₁, -, hrest⟩ := reaches_waiting_iff.1 h
    by_cases hleft : u.ready m₁.now w₁
    · rw [if_pos hleft] at hrest
      exact ⟨m₁, w₁, _, hleft, hrest⟩
    · rw [if_neg hleft] at hrest
      exact ih m₁ w₁ hrest

/-- The run beside a waiting one reaches what it reaches from the resumption of the waiting one
on. -/
theorem Reaches.right_of_beside (h : (beside u resumeLeft q).Reaches m c)
    (hnext : ∀ m₁ w₁ next, (resumeLeft m₁ w₁ next).Reaches m₁ c → ∃ w₂, (next w₂).Reaches m₁ b) :
    q.Reaches m b := by
  induction q generalizing m with
  | finished b' w =>
    obtain ⟨m₁, w₁, -, hrest⟩ := reaches_waiting_iff.1 h
    obtain ⟨w₂, hb⟩ := hnext m₁ w₁ _ hrest
    exact reaches_finished_iff.2 (reaches_finished_iff.1 hb)
  | waiting w v resume ih =>
    obtain ⟨m₁, w₁, hwoken, hrest⟩ := reaches_waiting_iff.1 h
    by_cases hleft : u.ready m₁.now w₁
    · rw [if_pos hleft] at hrest
      obtain ⟨w₂, hb⟩ := hnext m₁ w₁ _ hrest
      by_cases hright : v.ready m₁.now w₂
      · rw [if_pos hright] at hb
        exact reaches_waiting_iff.2 ⟨m₁, w₂, hright, hb⟩
      · rw [if_neg hright] at hb
        exact reaches_waiting_iff.2 (reaches_waiting_iff.1 hb)
    · rw [if_neg hleft] at hrest
      -- the other one is not woken, so this one is
      have hright : v.ready m₁.now w₁ := by
        rw [Wake.ready_or, Bool.or_eq_true] at hwoken
        exact hwoken.resolve_left hleft
      exact reaches_waiting_iff.2 ⟨m₁, w₁, hright, ih m₁ w₁ hrest⟩

variable {p : Progress α} {next : World → Progress β}

/-- Of two runs side by side the first reaches its own value. -/
theorem Reaches.left (h : (p.both next).Reaches m (a, b)) : p.Reaches m a := by
  induction p generalizing next m with
  | finished a' w =>
    obtain ⟨b', -, heq⟩ := reaches_map_iff.1 h
    cases heq
    exact reaches_finished_iff.2 rfl
  | waiting w u resume ih =>
    obtain ⟨m₁, w₁, next, hready, hrest⟩ := left_of_beside h
    exact reaches_waiting_iff.2 ⟨m₁, w₁, hready, ih m₁ w₁ hrest⟩

/-- Of two runs side by side the second reaches its own value, from some world. -/
theorem Reaches.right (h : (p.both next).Reaches m (a, b)) : ∃ w, (next w).Reaches m b := by
  induction p generalizing next m with
  | finished a' w =>
    obtain ⟨b', hb, heq⟩ := reaches_map_iff.1 h
    cases heq
    exact ⟨w, hb⟩
  | waiting w u resume ih =>
    exact ⟨w, right_of_beside h fun m₁ w₁ next hrest ↦ ih m₁ w₁ hrest⟩

end Progress

namespace Run

def Reaches (r : Run α) (m : Moment) (w : World) (a : α) : Prop := (r m w).Reaches m a

theorem map_apply (f : α → β) (r : Run α) (m : Moment) (w : World) :
    (f <$> r) m w = (r m w).map f := by
  change (r m w).andThen (fun a _ w' ↦ .finished (f a) w') m = (r m w).map f
  generalize r m w = p
  induction p generalizing m with
  | finished a w => rfl
  | waiting w u resume ih =>
    unfold Progress.andThen Progress.map
    congr
    funext m' w'
    exact ih m' w' m'

theorem reaches_map_iff {f : α → β} {r : Run α} :
    (f <$> r).Reaches m w b ↔ ∃ a, r.Reaches m w a ∧ f a = b := by
  unfold Reaches
  rw [map_apply]
  exact Progress.reaches_map_iff

/-- Of runs side by side every one comes to its value under a schedule of its own. -/
theorem Reaches.forall₂ {rs : List (Run α)} {values : List α} (h : (all rs).Reaches m w values) :
    List.Forall₂ (fun r a ↦ ∃ w₀, r.Reaches m w₀ a) rs values := by
  induction rs generalizing w values with
  | nil =>
    obtain rfl := Progress.reaches_finished_iff.1 h
    exact .nil
  | cons r rs ih =>
    obtain ⟨⟨a, as⟩, hboth, rfl⟩ := reaches_map_iff.1 h
    obtain ⟨w₁, has⟩ := Progress.Reaches.right hboth
    exact .cons ⟨w, Progress.Reaches.left hboth⟩ (ih has)

end Run

end ControlLoop
