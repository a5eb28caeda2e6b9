import ControlLoop.Proofs.Pipeline.Courses
import ControlLoop.Proofs.StatusUpdate.Application
import ControlLoop.Proofs.StatusUpdate.Building
import ControlLoop.Run.Wait

/-!
# Blind actions

Two acts or two runs resemble each other if from worlds that differ by the log only they come to
values that look alike, and leave worlds that differ by the log only. Values are looked at through a
function, so that a context can be looked at without its span. What is put together of parts that
resemble each other does so too, and an action is blind if its runs under any two spans do. A status
update is blind if its hooks are.
-/

namespace ControlLoop

variable {α β γ δ : Type}

namespace Act

/-- From worlds that differ by the log only, the acts have values that look alike and leave worlds
that differ by the log only. -/
def Resembles (look : α → β) (act act' : Act α) : Prop :=
  ∀ m w w', w.unlogged = w'.unlogged →
    look (act m w).1 = look (act' m w').1 ∧ (act m w).2.unlogged = (act' m w').2.unlogged

variable {look : α → β} {act act' : Act α}

theorem resembles_pure {a a' : α} (h : look a = look a') : Resembles look (pure a) (pure a') :=
  fun _ _ _ hw ↦ ⟨h, hw⟩

/-- Acts that resemble each other, continued alike from values that look alike, still do. -/
theorem Resembles.bind {seen : γ → δ} {f f' : α → Act γ} (h : Resembles look act act')
    (hf : ∀ a a', look a = look a' → Resembles seen (f a) (f' a')) :
    Resembles seen (act >>= f) (act' >>= f') := by
  intro m w w' hw
  obtain ⟨hvalue, hworld⟩ := h m w w' hw
  exact hf _ _ hvalue m _ _ hworld

/-- What is logged makes no difference. -/
theorem resembles_log (e e' : LogEntry) : Resembles id (log e) (log e') := fun _ _ _ hw ↦ ⟨rfl, hw⟩

/-- A change that neither looks at the log nor depends on it. -/
theorem resembles_modify {change : World → World}
    (h : ∀ w log, (change { w with log }).unlogged = (change w).unlogged) :
    Resembles id (modify change : Act Unit) (modify change) := by
  intro m w w' hw
  rw [World.eq_of_unlogged_eq hw]
  exact ⟨rfl, (h w w'.log).symm⟩

theorem resembles_leaveAll (notes : List Note) : Resembles id (leaveAll notes) (leaveAll notes) :=
  resembles_modify fun _ _ ↦ rfl

theorem resembles_leave (n : Note) : Resembles id (leave n) (leave n) :=
  resembles_modify fun _ _ ↦ rfl

theorem resembles_logFailure (ctx ctx' : Context) (message message' : String) (e e' : Error)
    (s : Signal) : Resembles id (logFailure ctx message e s) (logFailure ctx' message' e' s) :=
  (resembles_log _ _).bind fun _ _ _ ↦ resembles_pure rfl

/-- Whether an object gets stored does not depend on the log. -/
theorem resembles_persist (o : Object) : Resembles id (persist o) (persist o) := by
  intro m w w' hw
  rw [persist_eq, persist_eq, World.eq_of_unlogged_eq hw]
  exact ⟨rfl, rfl⟩

end Act

namespace Standing

/-- The standing with its value looked at, and without the log. -/
def seen (look : α → β) : Standing α → Standing β
  | .finished a m w rest => .finished (look a) m w.unlogged rest.unlogged
  | .waiting m w u => .waiting m w.unlogged u

theorem seen_bare (st : Standing Reply) : st.seen Reply.bare = st.bare := by
  cases st <;> rfl

end Standing

namespace Progress

/-- Resumed with worlds that differ by the log only, the runs come to values that look alike, at the
same moment, and leave worlds that differ by the log only, or wait alike. -/
def Resembles (look : α → β) (m : Moment) (p p' : Progress α) : Prop :=
  ∀ s s' : Schedule, s.unlogged = s'.unlogged → (p.play m s).seen look = (p'.play m s').seen look

variable {look : α → β} {m : Moment} {w w' : World}

theorem resembles_finished {a a' : α} (h : look a = look a') (hw : w.unlogged = w'.unlogged) :
    Resembles look m (finished a w) (finished a' w') := by
  intro s s' hs
  simp only [play, Standing.seen, h, hw, hs]

/-- Runs that wait for the same resemble each other if they do however they are resumed. -/
theorem resembles_waiting {u : Wake} {resume resume' : Moment → World → Progress α}
    (hw : w.unlogged = w'.unlogged)
    (hresume : ∀ m w w', w.unlogged = w'.unlogged → Resembles look m (resume m w) (resume' m w')) :
    Resembles look m (waiting w u resume) (waiting w' u resume') := by
  intro s s' hs
  cases s with
  | nil =>
    cases s' with
    | nil => simp only [play, Standing.seen, hw]
    | cons poll rest => cases hs
  | cons poll rest =>
    cases s' with
    | nil => cases hs
    | cons poll' rest' =>
      obtain ⟨m₁, w₁⟩ := poll
      obtain ⟨m₂, w₂⟩ := poll'
      obtain ⟨hpoll, hrest⟩ := List.cons.inj hs
      obtain ⟨rfl, hworld⟩ := Prod.mk.inj hpoll
      exact hresume m₁ w₁ w₂ hworld rest rest' hrest

/-- Runs that resemble each other, continued alike from values that look alike, still do. -/
theorem Resembles.andThen {look' : γ → δ} {p p' : Progress α}
    {f f' : α → Moment → World → Progress γ}
    (h : Resembles look m p p')
    (hf : ∀ a a' m w w', look a = look a' → w.unlogged = w'.unlogged →
      Resembles look' m (f a m w) (f' a' m w')) :
    Resembles look' m (p.andThen f m) (p'.andThen f' m) := by
  intro s s' hs
  have hfirst := h s s' hs
  rw [play_andThen, play_andThen]
  cases hp : p.play m s with
  | waiting m₁ w₁ u =>
    cases hp' : p'.play m s' with
    | finished a m₂ w₂ rest =>
      rw [hp, hp'] at hfirst
      cases hfirst
    | waiting m₂ w₂ v =>
      rw [hp, hp'] at hfirst
      obtain ⟨rfl, hworld, rfl⟩ := Standing.waiting.inj hfirst
      simp only [Standing.andThen, Standing.seen, hworld]
  | finished a m₁ w₁ rest =>
    cases hp' : p'.play m s' with
    | waiting m₂ w₂ v =>
      rw [hp, hp'] at hfirst
      cases hfirst
    | finished a' m₂ w₂ rest' =>
      rw [hp, hp'] at hfirst
      obtain ⟨hvalue, rfl, hworld, hrest⟩ := Standing.finished.inj hfirst
      exact hf a a' m₁ w₁ w₂ hvalue hworld rest rest' hrest

end Progress

namespace Run

/-- From worlds that differ by the log only, the runs go the same way. -/
def Resembles (look : α → β) (r r' : Run α) : Prop :=
  ∀ m w w', w.unlogged = w'.unlogged → Progress.Resembles look m (r m w) (r' m w')

variable {look : α → β} {r r' : Run α}

theorem resembles_lift {act act' : Act α} (h : act.Resembles look act') :
    Resembles look (liftM act) (liftM act') := by
  intro m w w' hw
  obtain ⟨hvalue, hworld⟩ := h m w w' hw
  exact Progress.resembles_finished hvalue hworld

theorem resembles_pure {a a' : α} (h : look a = look a') : Resembles look (pure a) (pure a') :=
  fun _ _ _ hw ↦ Progress.resembles_finished h hw

theorem Resembles.bind {look' : γ → δ} {f f' : α → Run γ} (h : Resembles look r r')
    (hf : ∀ a a', look a = look a' → Resembles look' (f a) (f' a')) :
    Resembles look' (r >>= f) (r' >>= f') := fun m w w' hw ↦
  (h m w w' hw).andThen fun a a' m₁ w₁ w₁' hvalue hworld ↦ hf a a' hvalue m₁ w₁ w₁' hworld

theorem resembles_untilTick (tick : Nat) : Resembles id (untilTick tick) (untilTick tick) := by
  intro m w w' hw
  unfold untilTick
  by_cases h : tick ≤ m.now.tick
  · rw [if_pos h, if_pos h]
    exact Progress.resembles_finished rfl hw
  · rw [if_neg h, if_neg h]
    exact Progress.resembles_waiting hw fun _ _ _ hworld ↦ Progress.resembles_finished rfl hworld

theorem resembles_sleep (d : Duration) : Resembles id (sleep d) (sleep d) := fun m w w' hw ↦
  resembles_untilTick _ m w w' hw

/-- A wait for a context to be done ends alike whatever the span of the context is. -/
theorem resembles_awaitDone {ctx ctx' : Context} (h : ctx.bare = ctx'.bare) (timerFirst : Bool) :
    Resembles id (awaitDone timerFirst ctx) (awaitDone timerFirst ctx') := by
  have hfired (now : Instant) {w w' : World} (hw : w.unlogged = w'.unlogged) :
      ctx.fired? timerFirst now w.handles = ctx'.fired? timerFirst now w'.handles := by
    rw [Context.eq_withSpan_of_bare_eq h, World.eq_of_unlogged_eq hw]
    rfl
  have hwake : ctx.wake = ctx'.wake := by
    rw [Context.eq_withSpan_of_bare_eq h]
    rfl
  intro m w w' hw
  unfold awaitDone
  rw [hfired m.now hw, hwake]
  cases ctx'.fired? timerFirst m.now w'.handles with
  | some e => exact Progress.resembles_finished rfl hw
  | none =>
    refine Progress.resembles_waiting hw fun m₁ w₁ w₁' hworld ↦ ?_
    rw [hfired m₁.now hworld]
    exact Progress.resembles_finished rfl hworld

end Run

/-- An action is blind if its runs under any two spans go the same way. -/
theorem Action.blind_iff {a : Action} :
    a.Blind ↔ ∀ span span' ctx ctx' state, ctx.bare = ctx'.bare →
      Run.Resembles Reply.bare (a.run span ctx state) (a.run span' ctx' state) := by
  constructor
  · intro h span span' ctx ctx' state hctx m w w' hw s s' hs
    rw [Standing.seen_bare, Standing.seen_bare]
    exact h span span' ⟨ctx, state, m, w, s⟩ ⟨ctx', state, m, w', s'⟩
      (Point.bare_eq_iff.2 ⟨hctx, rfl, rfl, hw, hs⟩)
  · rintro h span span' ⟨ctx, state, m, w, s⟩ ⟨ctx', state', m', w', s'⟩ hstart
    obtain ⟨hctx, rfl, rfl, hw, hs⟩ := Point.bare_eq_iff.1 hstart
    rw [← Standing.seen_bare, ← Standing.seen_bare]
    exact h span span' ctx ctx' _ hctx _ w w' hw s s' hs

theorem Pipeline.Blind.action {p : Pipeline} (h : p.Blind) : p.action.Blind :=
  fun span span' start start' hstart ↦
    congrArg Course.standing (h span span' start start' hstart)

namespace StatusUpdate

/-- An answer of a hook without the span of its context. -/
def bareAnswer (answer : Signal × Context) : Signal × Context := (answer.1, answer.2.bare)

/-- The hooks of the update do the same under all spans. -/
structure Blind (u : StatusUpdate) : Prop where
  wrapper : ∀ e, Act.Resembles id (u.wrapper e) (u.wrapper e)
  onError : ∀ hook, u.onError = some hook → ∀ span span' ctx ctx' e, ctx.bare = ctx'.bare →
    Act.Resembles bareAnswer (hook span ctx e) (hook span' ctx' e)
  onSuccess : ∀ hook, u.onSuccess = some hook → ∀ span span' ctx ctx', ctx.bare = ctx'.bare →
    Act.Resembles bareAnswer (hook span ctx) (hook span' ctx')

variable {u : StatusUpdate} {span span' : Option Span} {ctx ctx' : Context}

theorem Blind.answerFailure (h : u.Blind) (hctx : ctx.bare = ctx'.bare) (kind : String)
    (e : Error) : Act.Resembles bareAnswer (u.answerFailure span ctx kind e)
      (u.answerFailure span' ctx' kind e) := by
  unfold StatusUpdate.answerFailure
  refine (h.wrapper e).bind fun e e' he ↦ ?_
  obtain rfl : e = e' := he
  cases hhook : u.onError with
  | some hook => exact h.onError hook hhook span span' ctx ctx' e hctx
  | none =>
    refine (Act.resembles_logFailure _ _ _ _ _ _ _).bind fun s s' hs ↦ Act.resembles_pure ?_
    exact Prod.ext hs hctx

theorem Blind.answerSuccess (h : u.Blind) (hctx : ctx.bare = ctx'.bare) :
    Act.Resembles bareAnswer (u.answerSuccess span ctx) (u.answerSuccess span' ctx') := by
  unfold StatusUpdate.answerSuccess
  cases hhook : u.onSuccess with
  | some hook => exact h.onSuccess hook hhook span span' ctx ctx' hctx
  | none => exact Act.resembles_pure (Prod.ext rfl hctx)

theorem Blind.respond (h : u.Blind) (hctx : ctx.bare = ctx'.bare) (state : State) (o : Object)
    (answer : Except Error Object) :
    Act.Resembles Reply.bare (u.respond span ctx state o answer)
      (u.respond span' ctx' state o answer) := by
  cases answer with
  | error e =>
    refine (h.answerFailure hctx _ e).bind fun r r' hr ↦ Act.resembles_pure ?_
    obtain ⟨hsignal, hanswer⟩ := Prod.mk.inj hr
    simp only [Reply.bare, hsignal, hanswer]
  | ok written =>
    refine (h.answerSuccess hctx).bind fun r r' hr ↦ Act.resembles_pure ?_
    obtain ⟨hsignal, hanswer⟩ := Prod.mk.inj hr
    simp only [Reply.bare, hsignal, hanswer]

/-- An update whose hooks are blind writes and answers the same under all spans. -/
theorem Blind.apply (h : u.Blind) (hctx : ctx.bare = ctx'.bare) (state : State) :
    Act.Resembles Reply.bare (u.apply span ctx state) (u.apply span' ctx' state) := by
  intro m w w' hw
  have hnoted : (u.noted state.object w).unlogged = (u.noted state.object w').unlogged := by
    unfold noted
    cases (u.stale state.object.conditions).isEmpty
    · exact hw
    · exact hw
  rw [apply_eq, apply_eq]
  refine (Act.resembles_persist _).bind (fun answer answer' hanswer ↦ ?_) m _ _ hnoted
  obtain rfl : answer = answer' := hanswer
  exact h.respond hctx state _ answer

/-- A status update with blind hooks is a blind action. -/
theorem Blind.action (h : u.Blind) : u.action.Blind :=
  Action.blind_iff.2 fun _ _ _ _ state hctx ↦ Run.resembles_lift (h.apply hctx state)

/-- The hook that a call gives, if it gives one, does the same under all spans. -/
def Call.Blind : Call → Prop
  | .wrapper f => ∀ e, Act.Resembles id (f e) (f e)
  | .onError hook => ∀ span span' ctx ctx' e, ctx.bare = ctx'.bare →
    Act.Resembles bareAnswer (hook span ctx e) (hook span' ctx' e)
  | .onSuccess hook => ∀ span span' ctx ctx', ctx.bare = ctx'.bare →
    Act.Resembles bareAnswer (hook span ctx) (hook span' ctx')
  | _ => True

namespace Options

/-- The hooks among the options do the same under all spans. -/
structure Blind (o : Options) : Prop where
  wrapper : ∀ f, o.wrapper = some f → (Call.wrapper f).Blind
  onError : ∀ hook, o.onError = some hook → (Call.onError hook).Blind
  onSuccess : ∀ hook, o.onSuccess = some hook → (Call.onSuccess hook).Blind

/-- Options are blind if every call that set them was. -/
theorem Blind.ofCalls {calls : List Call} (h : ∀ c ∈ calls, c.Blind) :
    (ofCalls calls).Blind where
  wrapper _ hf := h _ (hooks_ofCalls_subset calls (wrapper_mem_hooks hf))
  onError _ hhook := h _ (hooks_ofCalls_subset calls (onError_mem_hooks hhook))
  onSuccess _ hhook := h _ (hooks_ofCalls_subset calls (onSuccess_mem_hooks hhook))

theorem Blind.build {o : Options} (h : o.Blind) {u : StatusUpdate} (hu : o.build = .ok u) :
    u.Blind := by
  obtain ⟨hwrapper, honError, honSuccess⟩ := eq_of_build hu
  constructor
  · rw [hwrapper]
    cases hf : o.wrapper with
    | none => exact fun e ↦ Act.resembles_pure rfl
    | some f => exact h.wrapper f hf
  · intro hook hhook
    exact h.onError hook (honError.symm.trans hhook)
  · intro hook hhook
    exact h.onSuccess hook (honSuccess.symm.trans hhook)

/-- Blind options run alike under all spans, also where they cannot be built into an update. -/
theorem Blind.run {o : Options} (h : o.Blind) {span span' : Option Span} {ctx ctx' : Context}
    (hctx : ctx.bare = ctx'.bare) (state : State) :
    Act.Resembles Reply.bare (o.run span ctx state) (o.run span' ctx' state) := by
  unfold Options.run
  cases hbuild : o.build with
  | ok u => exact (h.build hbuild).apply hctx state
  | error e =>
    refine (Act.resembles_logFailure _ _ _ _ _ _ _).bind fun s s' hs ↦ Act.resembles_pure ?_
    obtain rfl : s = s' := hs
    simp only [Reply.bare, hctx]

end Options

end StatusUpdate

end ControlLoop
