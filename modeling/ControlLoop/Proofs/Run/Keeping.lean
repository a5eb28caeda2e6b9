import ControlLoop.Proofs.Run.Moving

/-!
# What runs leave alone

A run keeps a part of the world if the part is the same after each of its polls as before it. What
else happens to the part between two polls is not the run's doing.
-/

namespace ControlLoop

variable {α β σ : Type} {part : World → σ} {found : σ}

/-- The part is the same in the second world as in the first. -/
def World.Same (part : World → σ) (w w' : World) : Prop := part w' = part w

instance : IsPreorder World (World.Same part) where
  refl _ := rfl
  trans _ _ _ h h' := Eq.trans h' h

namespace Progress

/-- The run has left the part of the world as it found it, and will at each poll to come. -/
def Keeps (part : World → σ) : Progress α → σ → Prop
  | .finished _ w, found => part w = found
  | .waiting w _ resume, found => part w = found ∧ ∀ m w', (resume m w').Keeps part (part w')

theorem Keeps.part_world {p : Progress α} (h : p.Keeps part found) : part p.world = found := by
  cases p with
  | finished a w => exact h
  | waiting w u resume => exact h.1

/-- To keep a part is to move only between worlds in which the part is the same. -/
theorem keeps_iff_moves {p : Progress α} {w : World} :
    p.Keeps part (part w) ↔ p.Moves (World.Same part) w := by
  induction p generalizing w with
  | finished a w' => exact Iff.rfl
  | waiting w' u resume ih =>
    exact and_congr_right fun _ ↦ forall_congr' fun m ↦ forall_congr' fun v ↦ ih m v

end Progress

namespace Run

def Keeps (part : World → σ) (r : Run α) : Prop := ∀ m w, (r m w).Keeps part (part w)

theorem keeps_iff_moves {r : Run α} : r.Keeps part ↔ r.Moves (World.Same part) :=
  forall_congr' fun _ ↦ forall_congr' fun _ ↦ Progress.keeps_iff_moves

theorem keeps_pure (a : α) : (pure a : Run α).Keeps part := fun _ _ ↦ rfl

/-- Runs one after the other keep a part that each of them keeps. -/
theorem Keeps.bind {r : Run α} {f : α → Run β} (hr : r.Keeps part) (hf : ∀ a, (f a).Keeps part) :
    (r >>= f).Keeps part :=
  keeps_iff_moves.2 ((keeps_iff_moves.1 hr).bind fun a ↦ keeps_iff_moves.1 (hf a))

theorem keeps_untilTick (tick : Nat) : (untilTick tick).Keeps part :=
  keeps_iff_moves.2 (moves_untilTick tick)

end Run

end ControlLoop
