import ControlLoop.Proofs.Scope.Following

/-!
# Interleavings of runs within scopes

The members of a company are within the scopes of different keys. However their steps are
interleaved, each of them follows its run alone: a step of one member is out of sight of the others,
and a step of the clock goes no further than the first timer. So when all members have their values
these are the values of the runs alone, and if each of those comes to an end the company does.
-/

namespace ControlLoop

variable {α : Type}

theorem forall₂_imp_of_mem {β γ : Type} {R S : β → γ → Prop} {l : List β} {l' : List γ}
    (h : List.Forall₂ R l l') (himp : ∀ a ∈ l, ∀ b ∈ l', R a b → S a b) : List.Forall₂ S l l' := by
  obtain ⟨hlength, hzip⟩ := List.forall₂_iff_zip.1 h
  refine List.forall₂_iff_zip.2 ⟨hlength, fun {a b} hmem ↦ ?_⟩
  obtain ⟨ha, hb⟩ := List.of_mem_zip hmem
  exact himp a ha b hb (hzip hmem)

/-- What is related to a list with a marked place has a place that is related to it. -/
theorem exists_of_forall₂_append_cons {β γ : Type} {R : β → γ → Prop} {l : List β}
    {before after : List γ} {b : γ} (h : List.Forall₂ R l (before ++ b :: after)) :
    ∃ l₁ a l₂, l = l₁ ++ a :: l₂ ∧ List.Forall₂ R l₁ before ∧ R a b ∧ List.Forall₂ R l₂ after := by
  have hbefore := List.forall₂_take_append l before (b :: after) h
  have hrest := List.forall₂_drop_append l before (b :: after) h
  obtain ⟨a, l₂, hab, hafter, hdrop⟩ := List.forall₂_cons_right_iff.1 hrest
  refine ⟨l.take before.length, a, l₂, ?_, hbefore, hab, hafter⟩
  rw [← hdrop, List.take_append_drop]

/-- A run alone: the key of its scope, and what the run comes to. -/
structure Solo (α : Type) where
  key : ObjectKey
  result : Option (α × World)

namespace Company

variable {owner : String → ObjectKey} {solos : List (Solo α)} {c c' : Company α}

/-- Each member follows its run alone. -/
def FollowsEach (owner : String → ObjectKey) (solos : List (Solo α)) (c : Company α) : Prop :=
  List.Forall₂ (fun s t ↦ Scope.Follows ⟨s.key, owner⟩ c.moment c.world s.result t) solos c.members

namespace FollowsEach

/-- A step of one member leaves every member following what it comes to alone. -/
theorem step (hkeys : (solos.map Solo.key).Nodup) (h : c.FollowsEach owner solos)
    (hstep : Step c c') : c'.FollowsEach owner solos := by
  cases hstep with
  | @resume m w before after u resume hready =>
    obtain ⟨first, s, last, rfl, hbefore, hs, hafter⟩ := exists_of_forall₂_append_cons h
    obtain ⟨hresumed, hspares⟩ := hs.resume hready
    rw [List.map_append, List.map_cons, List.nodup_middle, List.nodup_cons, List.mem_append,
      List.mem_map, List.mem_map] at hkeys
    obtain ⟨hdistinct, -⟩ := hkeys
    have hothers {l : List (Solo α)} {ts : List (Member α)}
        (hl : ∀ s' ∈ l, s'.key ≠ s.key)
        (hts : List.Forall₂ (fun s t ↦ Scope.Follows ⟨s.key, owner⟩ m w s.result t) l ts) :
        List.Forall₂
          (fun s t ↦ Scope.Follows ⟨s.key, owner⟩ m (resume m w).world s.result t) l ts :=
      forall₂_imp_of_mem hts fun s' hmem t _ ht ↦ ht.of_agree (hspares s'.key (hl s' hmem))
    have hfirst := hothers (fun s' hmem heq ↦ hdistinct (.inl ⟨s', hmem, heq⟩)) hbefore
    have hlast := hothers (fun s' hmem heq ↦ hdistinct (.inr ⟨s', hmem, heq⟩)) hafter
    exact List.rel_append hfirst (.cons hresumed hlast)
  | @advance m w members tick hidle htimer =>
    have htick : m.now.tick ≤ tick := by
      unfold Wake.ready Wake.timerFired at hidle
      rw [htimer, Bool.or_eq_false_iff] at hidle
      exact Nat.le_of_not_le (of_decide_eq_false hidle.1)
    refine forall₂_imp_of_mem h fun s _ t ht hfollows ↦ ?_
    refine hfollows.advance (Member.ready_eq_false_of_mem hidle ht) htick fun due hdue ↦ ?_
    obtain ⟨first, hfirst, hle⟩ := Member.exists_timer_of_mem ht hdue
    obtain rfl := Option.some.inj (hfirst.symm.trans htimer)
    exact hle

/-- However they are interleaved, every member follows what it comes to alone. -/
theorem interleaving (hkeys : (solos.map Solo.key).Nodup) (h : c.FollowsEach owner solos)
    (hpath : c.Interleaving c') : c'.FollowsEach owner solos := by
  induction hpath with
  | refl => exact h
  | tail _ hstep ih => exact ih.step hkeys hstep

/-- When all members have their values these are the values of the runs alone, and each run alone
has left its scope as the company has. -/
theorem ends (h : c.FollowsEach owner solos) {values : List α}
    (hdone : c.members = values.map .done) :
    List.Forall₂ (fun s a ↦ ∃ v, s.result = some (a, v) ∧ Scope.Agree ⟨s.key, owner⟩ c.world v)
      solos values := by
  unfold FollowsEach at h
  rw [hdone, List.forall₂_map_right_iff] at h
  refine h.imp fun s a hs ↦ ?_
  cases hs with
  | @done a v agree result_eq => exact ⟨v, result_eq, agree⟩

/-- As long as the company is not done, one of its members can go on. -/
theorem isDone_or_exists_step (h : c.FollowsEach owner solos)
    (hends : ∀ s ∈ solos, s.result.isSome) : c.IsDone ∨ ∃ c', Step c c' := by
  refine c.isDone_or_exists_asleep.imp_right ?_
  rintro ⟨u, resume, hasleep⟩
  refine exists_step hasleep fun v next hmem ↦ ?_
  obtain ⟨before, after, hmembers⟩ := List.append_of_mem hmem
  unfold FollowsEach at h
  rw [hmembers] at h
  obtain ⟨first, s, last, rfl, -, hs, -⟩ := exists_of_forall₂_append_cons h
  exact hs.instant?_isSome (hends s (by simp))

/-- If every run alone comes to an end the company does, however its steps are interleaved. -/
theorem inevitably_isDone (hkeys : (solos.map Solo.key).Nodup) (h : c.FollowsEach owner solos)
    (hends : ∀ s ∈ solos, s.result.isSome) : c.Inevitably IsDone :=
  inevitably_of_step fun _ hpath ↦ (h.interleaving hkeys hpath).isDone_or_exists_step hends

end FollowsEach

end Company

end ControlLoop
