import ControlLoop.Proofs.Run.Joining
import ControlLoop.Proofs.Scope.Agreement

/-!
# Runs within a scope

A run within a scope goes the same way from any two worlds that agree on the scope: it comes to the
same value, or waits for the same and goes the same way on from any two worlds that agree. It waits
only for time and for tokens of its own, and what it does until it waits is seen from no other
scope.

Runs within a scope are closed under whatever composes runs.
-/

namespace ControlLoop

variable {α β : Type} {d : Scope} {P Q : α → Prop}

namespace Progress

/-- Two stages of a run that have come about in the same way from worlds that agree on the scope,
the first of them from `w`. -/
inductive Alike (d : Scope) (Q : α → Prop) : World → Progress α → Progress α → Prop
  | finished {w x y : World} {a : α} (holds : Q a) (spares : d.Spares w x) (agree : d.Agree x y) :
    Alike d Q w (.finished a x) (.finished a y)
  | waiting {w x y : World} {u : Wake} {k l : Moment → World → Progress α}
    (owns : d.OwnsTokens u.tokens) (spares : d.Spares w x) (agree : d.Agree x y)
    (resume : ∀ m x' y', d.Agree x' y' → Alike d Q x' (k m x') (l m y')) :
    Alike d Q w (.waiting x u k) (.waiting y u l)

namespace Alike

variable {w v : World} {p q : Progress α}

/-- What a run is like does not depend on what has been done outside of the scope before. -/
theorem of_spares (hw : d.Spares w v) (h : Alike d Q v p q) : Alike d Q w p q := by
  cases h with
  | finished holds spares agree => exact .finished holds (hw.trans spares) agree
  | waiting owns spares agree resume => exact .waiting owns (hw.trans spares) agree resume

/-- Runs that are alike go on alike with values that are the same. -/
theorem andThen {R : β → Prop} {f g : α → Moment → World → Progress β} (h : Alike d P w p q)
    (m : Moment)
    (hrest : ∀ a m x y, P a → d.Agree x y → Alike d R x (f a m x) (g a m y)) :
    Alike d R w (p.andThen f m) (q.andThen g m) := by
  induction h generalizing m with
  | @finished w x y a holds spares agree => exact (hrest a m x y holds agree).of_spares spares
  | waiting owns spares agree resume ih =>
    exact .waiting owns spares agree fun m' x' y' hagree ↦ ih m' x' y' hagree m'

theorem map {R : β → Prop} (f : α → β) (hf : ∀ a, P a → R (f a)) (h : Alike d P w p q) :
    Alike d R w (p.map f) (q.map f) := by
  induction h with
  | finished holds spares agree => exact .finished (hf _ holds) spares agree
  | waiting owns spares agree resume ih => exact .waiting owns spares agree ih

/-- A bound ends runs that are alike at the same tick. -/
theorem before (tick : Nat) (m : Moment) (h : Alike d P w p q) :
    Alike d (fun a ↦ ∀ x, a = some x → P x) w (p.before tick m) (q.before tick m) := by
  induction h generalizing m with
  | finished holds spares agree =>
    refine .finished (fun x hx ↦ ?_) spares agree
    rwa [← Option.some.inj hx]
  | @waiting w x y u k l owns spares agree resume ih =>
    -- The time limit has come, at once or while the runs waited, and neither has a value.
    have hnone : ∀ a, (none : Option α) = some a → P a := fun a ha ↦
      absurd ha.symm (Option.some_ne_none a)
    unfold Progress.before
    by_cases hfired : tick ≤ m.now.tick
    · rw [if_pos hfired, if_pos hfired]
      exact .finished hnone spares agree
    · rw [if_neg hfired, if_neg hfired]
      have howns : d.OwnsTokens (u.or (.atTick tick)).tokens := owns.or d.ownsTokens_nil
      refine .waiting howns spares agree fun m' x' y' hagree ↦ ?_
      rw [← hagree.ready_eq owns]
      by_cases hready : u.ready m'.now x'
      · rw [if_pos hready, if_pos hready]
        exact ih m' x' y' hagree m'
      · rw [if_neg hready, if_neg hready]
        exact .finished hnone (.refl d hagree.calm.1) hagree

/-- A waiting run beside another one, if the waiting one goes on in the same way whatever alike
continuations the other one has by then. -/
theorem beside {γ : Type} {R : β → Prop} {S : γ → Prop} {u : Wake}
    {resume resume' : Moment → World → (World → Progress β) → Progress γ} {p q : Progress β}
    (hu : d.OwnsTokens u.tokens) (h : Alike d R w p q)
    (hresume : ∀ m x y next next', d.Agree x y →
      (∀ x' y', d.Agree x' y' → Alike d R x' (next x') (next' y')) →
      Alike d S x (resume m x next) (resume' m y next')) :
    Alike d S w (Progress.beside u resume p) (Progress.beside u resume' q) := by
  induction h with
  | finished holds spares agree =>
    refine .waiting hu spares agree fun m x y hagree ↦ hresume m x y _ _ hagree ?_
    exact fun x' y' hagree' ↦ .finished holds (.refl d hagree'.calm.1) hagree'
  | @waiting w x y v k l owns spares agree resumeRight ih =>
    refine .waiting (hu.or owns) spares agree fun m x' y' hagree ↦ ?_
    rw [← hagree.ready_eq hu]
    by_cases hready : u.ready m.now x'
    · rw [if_pos hready, if_pos hready]
      refine hresume m x' y' _ _ hagree fun x'' y'' hagree' ↦ ?_
      rw [← hagree'.ready_eq owns]
      by_cases hright : v.ready m.now x''
      · rw [if_pos hright, if_pos hright]
        exact resumeRight m x'' y'' hagree'
      · rw [if_neg hright, if_neg hright]
        exact .waiting owns (.refl d hagree'.calm.1) hagree' resumeRight
    · rw [if_neg hready, if_neg hready]
      exact ih m x' y' hagree

/-- Two runs side by side are alike if each of them is. -/
theorem both {R : β → Prop} {next next' : World → Progress β} (h : Alike d P w p q)
    (hnext : ∀ x y, d.Agree x y → Alike d R x (next x) (next' y)) :
    Alike d (fun ab ↦ P ab.1 ∧ R ab.2) w (p.both next) (q.both next') := by
  induction h generalizing next next' with
  | @finished w x y a holds spares agree =>
    exact ((hnext x y agree).map (a, ·) fun b hb ↦ ⟨holds, hb⟩).of_spares spares
  | @waiting w x y u k l owns spares agree resume ih =>
    refine ((hnext x y agree).beside owns fun m x' y' _ _ hagree hrest ↦ ?_).of_spares spares
    exact ih m x' y' hagree hrest

end Alike

end Progress

namespace Run

/-- From worlds that agree on the scope the run goes the same way. -/
def Within (d : Scope) (Q : α → Prop) (r : Run α) : Prop :=
  ∀ m w v, d.Agree w v → Progress.Alike d Q w (r m w) (r m v)

theorem within_pure {a : α} (h : Q a) : (pure a : Run α).Within d Q := fun _ _ _ hagree ↦
  .finished h (.refl d hagree.calm.1) hagree

theorem within_lift {act : Act α} (h : act.Within d Q) : (liftM act : Run α).Within d Q := by
  intro m w v hagree
  obtain ⟨hvalue, hQ, hspares, hafter⟩ := h m w v hagree
  change Progress.Alike d Q w (.finished (act m w).1 (act m w).2)
    (.finished (act m v).1 (act m v).2)
  rw [hvalue]
  exact .finished hQ hspares hafter

/-- A run is within a scope if each of its two parts is. -/
theorem Within.bind {R : β → Prop} {r : Run α} {f : α → Run β} (hr : r.Within d P)
    (hf : ∀ a, P a → (f a).Within d R) : (r >>= f).Within d R := fun m w v hagree ↦
  (hr m w v hagree).andThen m fun a m' x y hP hxy ↦ hf a hP m' x y hxy

theorem Within.map {R : β → Prop} {r : Run α} (f : α → β) (hf : ∀ a, P a → R (f a))
    (hr : r.Within d P) : (f <$> r).Within d R := by
  rw [map_eq_pure_bind]
  exact hr.bind fun a hP ↦ within_pure (hf a hP)

theorem Within.before {r : Run α} (due : Instant) (hr : r.Within d P) :
    (r.before due).Within d fun a ↦ ∀ x, a = some x → P x := fun m w v hagree ↦
  (hr m w v hagree).before due.timerTick m

theorem Within.both {R : β → Prop} {left : Run α} {right : Run β} (hleft : left.Within d P)
    (hright : right.Within d R) : (left.both right).Within d fun ab ↦ P ab.1 ∧ R ab.2 :=
  fun m w v hagree ↦ (hleft m w v hagree).both fun x y hxy ↦ hright m x y hxy

/-- Waits once, whatever has happened before. -/
def wait (u : Wake) : Run Unit := fun _ w ↦ .waiting w u fun _ w' ↦ .finished () w'

theorem within_wait {u : Wake} (hu : d.OwnsTokens u.tokens) : (wait u).Within d fun _ ↦ True :=
  fun _ _ _ hagree ↦ .waiting hu (.refl d hagree.calm.1) hagree fun _ _ _ hagree ↦
    .finished trivial (.refl d hagree.calm.1) hagree

end Run

end ControlLoop
