import ControlLoop.Proofs.Context.Handles
import ControlLoop.Proofs.Run.Polling
import ControlLoop.Run.Wait
import Mathlib.Data.List.Forall2

/-!
# Waiting for the end of a context

One who waits for the end of a context looks at its tokens and at the timer of its deadline, at once
and at every poll, and is told what has come at the first look that finds something. The context is
done by then, and what it says of itself is what is told, but for one case: where a token has been
cancelled and the timer has fired by the same look, the context says that it is cancelled, whereas
one who looks at the timer first is told of the deadline.

A handle that is dropped without a cancel is not seen at any look.
-/

namespace ControlLoop

namespace Context

variable {ctx : Context} {now : Instant} {handles : Handles}

/-- The timer of the deadline has fired. -/
def timerFired (ctx : Context) (now : Instant) : Bool := ctx.wake.timerFired now

theorem timerFired_eq :
    ctx.timerFired now = ctx.deadline.any fun due ↦ due.timerTick ≤ now.tick := by
  unfold timerFired wake Wake.timerFired
  cases ctx.deadline <;> rfl

/-- The timer of a deadline does not fire before the deadline. -/
theorem isExpired_of_timerFired (h : ctx.timerFired now = true) : ctx.isExpired now = true := by
  rw [timerFired_eq] at h
  unfold isExpired
  cases hdeadline : ctx.deadline with
  | none =>
    rw [hdeadline] at h
    cases h
  | some due =>
    rw [hdeadline, Option.any_some, decide_eq_true_eq] at h
    rw [Option.any_some, decide_eq_true_eq]
    exact Instant.le_of_timerTick_le h

/-- A look, at a moment and in a world, finds something that ends the wait for the context. -/
def isOver (ctx : Context) (look : Moment × World) : Bool :=
  ctx.timerFired look.1.now || ctx.isCancelled look.2.handles

theorem ready_wake (m : Moment) (w : World) : ctx.wake.ready m.now w = ctx.isOver (m, w) := rfl

/-- Where both a token and the timer have fired, the order of looking decides between them. -/
theorem fired?_eq (timerFirst : Bool) :
    ctx.fired? timerFirst now handles =
      if timerFirst = true ∧ ctx.timerFired now = true then some .deadlineExceeded
      else if ctx.isCancelled handles = true then some .cancelled
      else if ctx.timerFired now = true then some .deadlineExceeded
      else none := by
  unfold fired?
  rw [← timerFired_eq]
  cases timerFirst <;> cases ctx.timerFired now <;> cases ctx.isCancelled handles <;> rfl

theorem isSome_fired? (timerFirst : Bool) (m : Moment) (w : World) :
    (ctx.fired? timerFirst m.now w.handles).isSome = ctx.isOver (m, w) := by
  rw [fired?_eq]
  unfold isOver
  cases timerFirst <;> cases ctx.timerFired m.now <;> cases ctx.isCancelled w.handles <;> rfl

/-- A context is done once the wait for it is over. -/
theorem isSome_error?_of_isOver {m : Moment} {w : World} (h : ctx.isOver (m, w) = true) :
    (ctx.error? m.now w.handles).isSome = true := by
  rw [isSome_error?_iff]
  rcases Bool.or_eq_true_iff.1 h with hfired | hcancelled
  · exact .inr (isExpired_of_timerFired hfired)
  · exact .inl hcancelled

/-- What is told is what the context says of itself, unless the timer is looked at first, has fired
and a token has been cancelled. -/
theorem error?_eq_iff_of_fired? {timerFirst : Bool} {e : Error}
    (h : ctx.fired? timerFirst now handles = some e) :
    ctx.error? now handles = some e ↔
      ¬ (timerFirst = true ∧ ctx.isCancelled handles = true ∧ ctx.timerFired now = true) := by
  rw [fired?_eq] at h
  have hexpired : ctx.timerFired now = true → ctx.isExpired now = true := isExpired_of_timerFired
  unfold error?
  revert h hexpired
  cases timerFirst <;> cases ctx.timerFired now <;> cases ctx.isCancelled handles <;>
    cases ctx.isExpired now <;> cases e <;> simp

end Context

namespace Standing

/-- The value, with the moment and the world at which it was there. -/
def told? {α : Type} : Standing α → Option (α × Moment × World)
  | .finished a m w _ => some (a, m, w)
  | .waiting _ _ _ => none

end Standing

namespace Schedule

/-- The worlds of the second schedule are those of the first, at the same moments, but that more
handles have been dropped by then. -/
def MoreDropped : Schedule → Schedule → Prop :=
  List.Forall₂ fun look look' ↦
    look'.1 = look.1 ∧ ∃ names : List String,
      look'.2.handles = names.foldl Handles.drop look.2.handles

end Schedule

namespace Handles

/-- Dropped handles cancel nothing. -/
theorem isCancelled_foldl_drop (names : List String) (hs : Handles) (token : CancelToken) :
    (names.foldl drop hs).isCancelled token = hs.isCancelled token := by
  induction names generalizing hs with
  | nil => rfl
  | cons name names ih => rw [List.foldl_cons, ih, isCancelled_drop]

end Handles

namespace Context

variable {ctx : Context} {handles handles' : Handles}

theorem isCancelled_congr (h : ∀ token, handles'.isCancelled token = handles.isCancelled token) :
    ctx.isCancelled handles' = ctx.isCancelled handles := by
  unfold isCancelled
  rw [funext h]

theorem fired?_congr (h : ∀ token, handles'.isCancelled token = handles.isCancelled token)
    (timerFirst : Bool) (now : Instant) :
    ctx.fired? timerFirst now handles' = ctx.fired? timerFirst now handles := by
  rw [fired?_eq, fired?_eq, isCancelled_congr h]

end Context

namespace Run

variable {timerFirst : Bool} {ctx : Context} {m m' : Moment} {w w' : World}

/-- A wait that starts when the context is done is told so at once. -/
theorem polled_awaitDone_of_eq_some {e : Error}
    (h : ctx.fired? timerFirst m.now w.handles = some e) (s : Schedule) :
    (awaitDone timerFirst ctx).polled m w s = .finished e m w s := by
  unfold polled awaitDone
  rw [h]
  exact Progress.polled_finished e w m s

theorem told?_of_eq_some {e : Error} (h : ctx.fired? timerFirst m.now w.handles = some e)
    (s : Schedule) : ((awaitDone timerFirst ctx).polled m w s).told? = some (e, m, w) := by
  rw [polled_awaitDone_of_eq_some h]
  rfl

theorem polled_awaitDone_nil (h : ctx.fired? timerFirst m.now w.handles = none) :
    (awaitDone timerFirst ctx).polled m w [] = .waiting m w ctx.wake := by
  unfold polled awaitDone
  rw [h]
  rfl

/-- A wait that finds nothing begins anew at the next poll. -/
theorem polled_awaitDone_cons (h : ctx.fired? timerFirst m.now w.handles = none)
    (rest : Schedule) :
    (awaitDone timerFirst ctx).polled m w ((m', w') :: rest) =
      (awaitDone timerFirst ctx).polled m' w' rest := by
  have hready : ctx.wake.ready m'.now w' = (ctx.fired? timerFirst m'.now w'.handles).isSome := by
    rw [ctx.ready_wake, ctx.isSome_fired?]
  unfold polled awaitDone
  rw [h]
  cases hfired : ctx.fired? timerFirst m'.now w'.handles with
  | some e =>
    rw [hfired, Option.isSome_some] at hready
    rw [Progress.polled_cons_of_ready hready, hfired]
    rfl
  | none =>
    rw [hfired, Option.isSome_none] at hready
    exact Progress.polled_cons_of_not_ready (ne_true_of_eq_false hready)

theorem find?_isOver_of_eq_some {e : Error}
    (h : ctx.fired? timerFirst m.now w.handles = some e) (s : Schedule) :
    ((m, w) :: s).find? ctx.isOver = some (m, w) := by
  apply List.find?_cons_of_pos
  rw [← ctx.isSome_fired? timerFirst m w, h, Option.isSome_some]

theorem find?_isOver_of_eq_none (h : ctx.fired? timerFirst m.now w.handles = none)
    (s : Schedule) : ((m, w) :: s).find? ctx.isOver = s.find? ctx.isOver := by
  apply List.find?_cons_of_neg
  rw [← ctx.isSome_fired? timerFirst m w, h, Option.isSome_none]
  exact Bool.false_ne_true

/-- A wait is over at the first look that finds something, and not before. -/
theorem told?_polled_awaitDone (timerFirst : Bool) (ctx : Context) (m : Moment) (w : World)
    (s : Schedule) :
    ((awaitDone timerFirst ctx).polled m w s).told? =
      (((m, w) :: s).find? ctx.isOver).bind fun look ↦
        (ctx.fired? timerFirst look.1.now look.2.handles).map fun e ↦ (e, look) := by
  induction s generalizing m w with
  | nil =>
    cases hfired : ctx.fired? timerFirst m.now w.handles with
    | some e =>
      rw [told?_of_eq_some hfired, find?_isOver_of_eq_some hfired, Option.bind_some, hfired]
      rfl
    | none =>
      rw [polled_awaitDone_nil hfired, find?_isOver_of_eq_none hfired]
      rfl
  | cons look rest ih =>
    cases hfired : ctx.fired? timerFirst m.now w.handles with
    | some e =>
      rw [told?_of_eq_some hfired, find?_isOver_of_eq_some hfired, Option.bind_some, hfired]
      rfl
    | none =>
      rw [polled_awaitDone_cons hfired, find?_isOver_of_eq_none hfired]
      exact ih look.1 look.2

/-- What one is told comes from the look that ended the wait. -/
theorem fired?_of_told? {s : Schedule} {e : Error}
    (h : ((awaitDone timerFirst ctx).polled m w s).told? = some (e, m', w')) :
    ctx.fired? timerFirst m'.now w'.handles = some e := by
  rw [told?_polled_awaitDone] at h
  obtain ⟨found, -, htold⟩ := Option.bind_eq_some_iff.1 h
  obtain ⟨e', hfired, heq⟩ := Option.map_eq_some_iff.1 htold
  cases heq
  exact hfired

/-- A wait is told at the first look that finds something. -/
theorem snd_told?_polled_awaitDone (timerFirst : Bool) (ctx : Context) (m : Moment) (w : World)
    (s : Schedule) :
    ((awaitDone timerFirst ctx).polled m w s).told?.map Prod.snd =
      ((m, w) :: s).find? ctx.isOver := by
  rw [told?_polled_awaitDone]
  cases hfound : ((m, w) :: s).find? ctx.isOver with
  | none => rfl
  | some look =>
    have hover : (ctx.fired? timerFirst look.1.now look.2.handles).isSome = true := by
      rw [ctx.isSome_fired? timerFirst look.1 look.2]
      exact List.find?_some hfound
    obtain ⟨e, hfired⟩ := Option.isSome_iff_exists.1 hover
    rw [Option.bind_some, hfired]
    rfl

/-- Handles that are dropped besides are not noticed. -/
theorem told?_of_moreDropped {s s' : Schedule} (h : s.MoreDropped s')
    (hw : ∀ token, w'.handles.isCancelled token = w.handles.isCancelled token) :
    (((awaitDone timerFirst ctx).polled m w' s').told?.map fun told ↦ (told.1, told.2.1)) =
      ((awaitDone timerFirst ctx).polled m w s).told?.map fun told ↦ (told.1, told.2.1) := by
  induction h generalizing m w w' with
  | nil =>
    have hsame := ctx.fired?_congr hw timerFirst m.now
    cases hfired : ctx.fired? timerFirst m.now w.handles with
    | some e =>
      rw [told?_of_eq_some hfired, told?_of_eq_some (hsame.trans hfired)]
      rfl
    | none =>
      rw [polled_awaitDone_nil hfired, polled_awaitDone_nil (hsame.trans hfired)]
      rfl
  | @cons look look' rest rest' hlook _ ih =>
    have hsame := ctx.fired?_congr hw timerFirst m.now
    cases hfired : ctx.fired? timerFirst m.now w.handles with
    | some e =>
      rw [told?_of_eq_some hfired, told?_of_eq_some (hsame.trans hfired)]
      rfl
    | none =>
      obtain ⟨m₁, w₁⟩ := look
      obtain ⟨m₂, w₂⟩ := look'
      obtain ⟨rfl, names, hnames⟩ := hlook
      rw [polled_awaitDone_cons hfired, polled_awaitDone_cons (hsame.trans hfired)]
      apply ih
      intro token
      rw [hnames, Handles.isCancelled_foldl_drop]

/-- What ends a wait for a context is a cancelled token or the timer of its deadline, whatever
handles have been dropped besides, at the first look that finds either; and what is told is what the
context then says of itself, but where both are found and the timer is looked at first. -/
theorem awaitDone_tells_error? (timerFirst : Bool) (ctx : Context) (m : Moment) (w : World)
    (s : Schedule) :
    (∀ e m' w', ((awaitDone timerFirst ctx).polled m w s).told? = some (e, m', w') →
      (ctx.error? m'.now w'.handles).isSome = true ∧
      (ctx.error? m'.now w'.handles = some e ↔
        ¬ (timerFirst = true ∧ ctx.isCancelled w'.handles = true ∧
          ctx.timerFired m'.now = true))) ∧
    ((awaitDone timerFirst ctx).polled m w s).told?.map Prod.snd =
      ((m, w) :: s).find? ctx.isOver ∧
    ∀ w' s', Schedule.MoreDropped ((m, w) :: s) ((m, w') :: s') →
      (((awaitDone timerFirst ctx).polled m w' s').told?.map fun told ↦ (told.1, told.2.1)) =
        ((awaitDone timerFirst ctx).polled m w s).told?.map fun told ↦ (told.1, told.2.1) := by
  refine ⟨fun e m' w' h ↦ ?_, snd_told?_polled_awaitDone timerFirst ctx m w s, fun w' s' h ↦ ?_⟩
  · have hfired : ctx.fired? timerFirst m'.now w'.handles = some e := fired?_of_told? h
    have hover : ctx.isOver (m', w') = true := by
      rw [← ctx.isSome_fired? timerFirst m' w', hfired, Option.isSome_some]
    exact ⟨Context.isSome_error?_of_isOver hover, Context.error?_eq_iff_of_fired? hfired⟩
  · cases h with
    | cons hfirst hrest =>
      obtain ⟨-, names, hnames⟩ := hfirst
      apply told?_of_moreDropped hrest
      intro token
      rw [hnames, Handles.isCancelled_foldl_drop]

/-- A context of 2 ms with a handle. -/
def lease : Context := ⟨none, ∅, [(∅ : Handles).nextToken "holder"], some ⟨2000000⟩⟩

def granted : World := { handles := (∅ : Handles).issue "holder" }

def revoked : World := { handles := granted.handles.cancel "holder" }

def readAt (nanos : Nat) : Moment := ⟨⟨nanos⟩, .read 0⟩

/-- The lease is revoked after 1 ms, before its time is over, and the handle is dropped at once. -/
theorem awaitDone_tells_error?_lease :
    let polls : Schedule := [(readAt 500000, granted), (readAt 1000000, revoked)]
    let dropped : World := { handles := revoked.handles.drop "holder" }
    let wait := (awaitDone true lease).polled (readAt 0) granted
    (wait polls).told? = some (.cancelled, readAt 1000000, revoked) ∧
      lease.error? (readAt 1000000).now revoked.handles = some .cancelled ∧
      ((wait [(readAt 500000, granted), (readAt 1000000, dropped)]).told?.map fun told ↦
        (told.1, told.2.1)) = some (.cancelled, readAt 1000000) := by
  intro polls dropped wait
  have htold : (wait polls).told? = some (.cancelled, readAt 1000000, revoked) := rfl
  have hlive : lease.timerFired (readAt 1000000).now = false := by decide
  obtain ⟨htells, -, hdrops⟩ := awaitDone_tells_error? true lease (readAt 0) granted polls
  have herror : lease.error? (readAt 1000000).now revoked.handles = some .cancelled := by
    apply (htells _ _ _ htold).2.2
    rintro ⟨-, -, hfired⟩
    exact Bool.false_ne_true (hlive.symm.trans hfired)
  have hdropped : Schedule.MoreDropped ((readAt 0, granted) :: polls)
      [(readAt 0, granted), (readAt 500000, granted), (readAt 1000000, dropped)] :=
    .cons ⟨rfl, [], rfl⟩ (.cons ⟨rfl, [], rfl⟩ (.cons ⟨rfl, ["holder"], rfl⟩ .nil))
  exact ⟨htold, herror, (hdrops granted _ hdropped).trans (congrArg _ htold)⟩

/-- The lease is revoked as its time comes to its end. One who looks at the timer first is told of
the deadline, while the lease says that it is cancelled. -/
theorem awaitDone_tells_deadline_of_cancelled :
    ((awaitDone true lease).polled (readAt 0) granted [(readAt 2000000, revoked)]).told? =
        some (.deadlineExceeded, readAt 2000000, revoked) ∧
      lease.error? (readAt 2000000).now revoked.handles = some .cancelled :=
  ⟨rfl, rfl⟩

end Run

end ControlLoop
