import ControlLoop.Proofs.Scope.Within
import ControlLoop.Run.Wait

/-!
# What a scope admits

A run that a scope admits is put together from a few ways to reach the world: it reads the clocks,
leaves marks on the trail and in the log, looks at and changes the handles of the scope, writes
objects of the key, and waits. What it makes of the answers is left to it. Such a run is within the
scope, so what it does depends on nothing else and reaches nothing else.
-/

namespace ControlLoop

namespace Run

theorem read_bind {α : Type} (f : Moment → Run α) :
    (liftM (read : Act Moment) : Run Moment) >>= f = fun m w ↦ f m m w := rfl

def lookFired (timerFirst : Bool) (ctx : Context) : Run (Option Error) :=
  (liftM (read : Act Moment) : Run Moment) >>= fun m ↦
    liftM ((fun w ↦ ctx.fired? timerFirst m.now w.handles) <$> (get : Act World))

/-- Goes on with what was found, or waits once and looks again. -/
def awaitFired (timerFirst : Bool) (ctx : Context) : Option Error → Run Error
  | some e => pure e
  | none => wait ctx.wake >>= fun _ ↦ (·.getD .cancelled) <$> lookFired timerFirst ctx

/-- Waiting for the end of a context is a look at what has fired and, if nothing has, a wait. -/
theorem awaitDone_eq_bind (timerFirst : Bool) (ctx : Context) :
    awaitDone timerFirst ctx = lookFired timerFirst ctx >>= awaitFired timerFirst ctx := by
  funext m w
  change awaitDone timerFirst ctx m w =
    awaitFired timerFirst ctx (ctx.fired? timerFirst m.now w.handles) m w
  unfold awaitDone
  cases ctx.fired? timerFirst m.now w.handles with
  | some e => rfl
  | none => rfl

end Run

namespace Scope

/-- The runs that a scope admits, with what holds of their values. -/
inductive Admits (d : Scope) : {α : Type} → (α → Prop) → Run α → Prop
  | pure {α : Type} {Q : α → Prop} {a : α} (holds : Q a) : Admits d Q (pure a)
  | bind {α β : Type} {P : α → Prop} {Q : β → Prop} {r : Run α} {f : α → Run β}
    (run : Admits d P r) (rest : ∀ a, P a → Admits d Q (f a)) : Admits d Q (r >>= f)
  | clocks : Admits d (fun _ ↦ True) (liftM (read : Act Moment))
  | mark (trail : List Note → List Note) (log : List LogEntry → List LogEntry) :
    Admits d (fun _ ↦ True)
      (liftM (modify fun w ↦ { w with trail := trail w.trail, log := log w.log } : Act Unit))
  | look {α : Type} {Q : α → Prop} (f : Handles → α) (holds : ∀ hs, Q (f hs))
    (same : ∀ hs ks, d.SameHandles hs ks → f hs = f ks) :
    Admits d Q (liftM ((fun w ↦ f w.handles) <$> (get : Act World)))
  | change {name : String} (owns : d.OwnsName name) (f : HandleHistory → HandleHistory) :
    Admits d (fun _ ↦ True)
      (liftM (modify fun w ↦ { w with handles := w.handles.update name f } : Act Unit))
  | persist {o : Object} (own : o.key = d.key) :
    Admits d (fun answer ↦ ∀ written, answer = .ok written → written.key = d.key)
      (liftM (Act.persist o))
  | wait {u : Wake} (owns : d.OwnsTokens u.tokens) : Admits d (fun _ ↦ True) (Run.wait u)
  | before {α : Type} {P : α → Prop} {r : Run α} (due : Instant) (run : Admits d P r) :
    Admits d (fun a ↦ ∀ x, a = some x → P x) (r.before due)
  | both {α β : Type} {P : α → Prop} {R : β → Prop} {left : Run α} {right : Run β}
    (first : Admits d P left) (second : Admits d R right) :
    Admits d (fun ab ↦ P ab.1 ∧ R ab.2) (left.both right)

namespace Admits

variable {α β : Type} {d : Scope} {P Q : α → Prop} {R : β → Prop} {r : Run α}

/-- A run that a scope admits reaches no more than the scope. -/
theorem within (h : d.Admits Q r) : r.Within d Q := by
  induction h with
  | pure holds => exact Run.within_pure holds
  | bind _ _ run rest => exact run.bind rest
  | clocks => exact Run.within_lift (Act.within_read fun _ ↦ trivial)
  | mark trail log => exact Run.within_lift (Act.within_mark trail log)
  | look f holds same => exact Run.within_lift (Act.within_look f holds same)
  | change owns f => exact Run.within_lift (Act.within_change owns f)
  | persist own => exact Run.within_lift (Act.within_persist own)
  | wait owns => exact Run.within_wait owns
  | before due _ run => exact run.before due
  | both _ _ first second => exact first.both second

/-- Admission with a stronger promise on the value is admission with a weaker one. -/
theorem mono (h : d.Admits P r) (hPQ : ∀ a, P a → Q a) : d.Admits Q r := by
  have hbind : d.Admits Q (r >>= Pure.pure) := h.bind fun a hP ↦ .pure (hPQ a hP)
  rwa [bind_pure] at hbind

theorem andThen {f : α → Run β} (h : d.Admits P r) (hrest : ∀ a, d.Admits R (f a)) :
    d.Admits R (r >>= f) := h.bind fun a _ ↦ hrest a

/-- Acts are admitted one after the other. -/
theorem lift_bind {act : Act α} {f : α → Act β} (h : d.Admits P (liftM act))
    (hrest : ∀ a, P a → d.Admits R (liftM (f a))) : d.Admits R (liftM (act >>= f)) :=
  h.bind (f := fun a ↦ liftM (f a)) hrest

theorem lift_pure {a : α} (hQ : Q a) : d.Admits Q (liftM (Pure.pure a : Act α)) := .pure hQ

theorem log (e : LogEntry) : d.Admits (fun _ ↦ True) (liftM (Act.log e)) :=
  mark id (· ++ [e])

theorem logFailure (ctx : Context) (message : String) (e : Error) (s : Signal) :
    d.Admits (fun _ ↦ True) (liftM (Act.logFailure ctx message e s)) :=
  (log _).lift_bind fun _ _ ↦ lift_pure trivial

theorem leaveAll (notes : List Note) : d.Admits (fun _ ↦ True) (liftM (Act.leaveAll notes)) :=
  mark (· ++ notes) id

/-- Whether a context is done is seen from its own tokens and the clock. -/
theorem contextError {ctx : Context} (hctx : d.OwnsTokens ctx.tokens) :
    d.Admits (fun _ ↦ True) (liftM (Act.contextError ctx)) := by
  have hsame (now : Instant) (hs ks : Handles) (h : d.SameHandles hs ks) :
      ctx.error? now hs = ctx.error? now ks := by
    unfold Context.error? Context.isCancelled
    rw [h.any_isCancelled_eq hctx]
  have hrun : (liftM (Act.contextError ctx) : Run (Option Error)) =
      (liftM (read : Act Moment) : Run Moment) >>= fun m ↦
        liftM ((fun w ↦ ctx.error? m.now w.handles) <$> (get : Act World)) := rfl
  rw [hrun]
  exact clocks.andThen fun m ↦ look (ctx.error? m.now) (fun _ ↦ trivial) (hsame m.now)

/-- A wait for a timer reaches nothing of the world. -/
theorem untilTick (tick : Nat) : d.Admits (fun _ ↦ True) (Run.untilTick tick) := by
  have hrun : Run.untilTick tick =
      (liftM (read : Act Moment) : Run Moment) >>= fun m ↦
        if tick ≤ m.now.tick then Pure.pure () else Run.wait (.atTick tick) := by
    rw [Run.read_bind]
    funext m w
    unfold Run.untilTick
    by_cases hpast : tick ≤ m.now.tick
    · rw [if_pos hpast, if_pos hpast]
      rfl
    · rw [if_neg hpast, if_neg hpast]
      rfl
  rw [hrun]
  refine clocks.andThen fun m ↦ ?_
  split
  · exact .pure trivial
  · exact wait d.ownsTokens_nil

theorem sleep (duration : Duration) : d.Admits (fun _ ↦ True) (Run.sleep duration) := by
  have hrun : Run.sleep duration =
      (liftM (read : Act Moment) : Run Moment) >>= fun m ↦
        Run.untilInstant ((m.now.after? duration).getD
          (m.now.after (.ofSeconds (30 * 365 * 86400) 0))) := by
    rw [Run.read_bind]
    rfl
  rw [hrun]
  exact clocks.andThen fun m ↦ untilTick _

/-- A context whose tokens the scope owns looks at no other handle. -/
theorem lookFired (timerFirst : Bool) {ctx : Context} (hctx : d.OwnsTokens ctx.tokens) :
    d.Admits (fun _ ↦ True) (Run.lookFired timerFirst ctx) := by
  have hsame (now : Instant) (hs ks : Handles) (h : d.SameHandles hs ks) :
      ctx.fired? timerFirst now hs = ctx.fired? timerFirst now ks := by
    unfold Context.fired? Context.isCancelled
    rw [h.any_isCancelled_eq hctx]
  exact clocks.andThen fun m ↦ look (ctx.fired? timerFirst m.now) (fun _ ↦ trivial) (hsame m.now)

/-- A run may wait for the end of a context whose tokens the scope owns. -/
theorem awaitDone (timerFirst : Bool) {ctx : Context} (hctx : d.OwnsTokens ctx.tokens) :
    d.Admits (fun _ ↦ True) (Run.awaitDone timerFirst ctx) := by
  rw [Run.awaitDone_eq_bind]
  refine (lookFired timerFirst hctx).andThen fun found ↦ ?_
  cases found with
  | some e => exact .pure trivial
  | none =>
    unfold Run.awaitFired
    rw [map_eq_pure_bind]
    exact (wait hctx).andThen fun _ ↦ (lookFired timerFirst hctx).andThen fun _ ↦ .pure trivial

end Admits

end Scope

end ControlLoop
