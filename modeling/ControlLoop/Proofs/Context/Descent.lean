import ControlLoop.Proofs.Context.Handles

/-!
# The descent of contexts

What has happened decides when a context is done. It is cancelled if a cancel was called on a handle
that was made with the context itself or with one that it descends from; else it has expired once
the earliest of the deadlines on its path of descent has come. The handles of other contexts and
handles that were only dropped have no part in it. A context is done whenever one that it descends
from is, and it stays done.
-/

namespace ControlLoop

open ContextPast ControlLoop.Derivation
open Script (ContextEffect)

/-! ## Paths of descent -/

namespace Derivation

variable {d x : Derivation} {p : List Derivation}

theorem eq_or_mem_of_mem_onto (h : x ∈ d.onto p) : x = d ∨ x ∈ p := by
  unfold onto at h
  split at h
  · exact .inl (List.mem_singleton.1 h)
  · exact List.mem_cons.1 h

/-- If the path goes on beyond the last step, then by the whole path of the parent. -/
theorem mem_onto_of_ne {y : Derivation} (hy : y ∈ d.onto p) (hne : y ≠ d) (hx : x ∈ p) :
    x ∈ d.onto p := by
  unfold onto at hy ⊢
  split at hy
  · exact absurd (List.mem_singleton.1 hy) hne
  · exact List.mem_cons_of_mem d hx

end Derivation

variable {s : Session} {past : ContextPast} {number : Nat} {ctx : Context}

theorem length_contexts_after (s : Session) (past : ContextPast) :
    (Family.after s past).contexts.length = made past := by
  induction past with
  | nil => rfl
  | cons turn past ih =>
    cases turn with
    | derive parent effect =>
      change ((Family.after s past).contexts ++ [_]).length = made past + 1
      rw [List.length_append, ih, List.length_singleton]
    | use u => exact ih
    | advance d => exact ih

/-- The last step of descent of the context that is made next. -/
def Family.nextDerivation (s : Session) (past : ContextPast) (effect : ContextEffect) :
    Derivation :=
  ⟨made past, effect, (Family.after s past).session⟩

/-- The path to a new context is the path to its parent and the derivation. -/
theorem path_derive_self (s : Session) (past : ContextPast) (parent : Nat)
    (effect : ContextEffect) :
    path s (.derive parent effect :: past) (made past) =
      (Family.nextDerivation s past effect).onto (path s past parent) :=
  if_pos rfl

/-- A derivation leaves the paths to other contexts. -/
theorem path_derive_of_ne {parent : Nat} {effect : ContextEffect} (h : number ≠ made past) :
    path s (.derive parent effect :: past) number = path s past number :=
  if_neg h

theorem handles_perform (effect : ContextEffect) (ctx : Context) (m : Moment) (w : World) :
    (effect.perform none ctx m w).2.handles = handlesAfter effect w.handles := by
  cases effect <;> rfl

/-- The handles have kept track of every token that was derived on a path. -/
theorem tracked_of_mem_path {d : Derivation} (h : d ∈ path s past number) :
    d.Tracked past (Family.after s past).session.world.handles := by
  induction past generalizing number with
  | nil => exact absurd h List.not_mem_nil
  | cons turn past ih =>
    cases turn with
    | derive parent effect =>
      have hhandles : (Family.after s (.derive parent effect :: past)).session.world.handles =
          handlesAfter effect (Family.after s past).session.world.handles :=
        handles_perform effect _ _ _
      rw [hhandles]
      by_cases hnumber : number = made past
      · rw [hnumber, path_derive_self] at h
        rcases Derivation.eq_or_mem_of_mem_onto h with rfl | hold
        · exact Derivation.tracked_new past parent effect _
        · exact (ih hold).derive parent effect
      · rw [path_derive_of_ne hnumber] at h
        exact (ih h).derive parent effect
    | use u =>
      cases u with
      | cancel handle => exact (ih h).cancel handle
      | drop handle => exact (ih h).drop handle
    | advance d => exact (ih h).advance d

theorem path_eq_nil (h : made past ≤ number) : path s past number = [] := by
  induction past with
  | nil => rfl
  | cons turn past ih =>
    cases turn with
    | derive parent effect =>
      have hlt : made past < number := h
      rw [path_derive_of_ne (Nat.ne_of_gt hlt)]
      exact ih (Nat.le_of_lt hlt)
    | use u => exact ih h
    | advance d => exact ih h

/-- The path of an ancestor is part of the path. -/
theorem mem_path_trans {d x : Derivation} (hd : d ∈ path s past number)
    (hx : x ∈ path s past d.number) : x ∈ path s past number := by
  induction past generalizing number with
  | nil => exact absurd hd List.not_mem_nil
  | cons turn past ih =>
    cases turn with
    | derive parent effect =>
      by_cases hnumber : number = made past
      · rw [hnumber, path_derive_self] at hd ⊢
        by_cases hlast : d = Family.nextDerivation s past effect
        · rw [hlast] at hx
          exact (path_derive_self s past parent effect) ▸ hx
        · have hparent : d ∈ path s past parent :=
            (Derivation.eq_or_mem_of_mem_onto hd).resolve_left hlast
          have hearlier : d.number ≠ made past :=
            Nat.ne_of_lt (tracked_of_mem_path hparent).lt_made
          rw [path_derive_of_ne hearlier] at hx
          exact Derivation.mem_onto_of_ne hd hlast (ih hparent hx)
      · rw [path_derive_of_ne hnumber] at hd ⊢
        have hearlier : d.number ≠ made past := Nat.ne_of_lt (tracked_of_mem_path hd).lt_made
        rw [path_derive_of_ne hearlier] at hx
        exact ih hd hx
    | use u => exact ih hd hx
    | advance d => exact ih hd hx

/-! ## What a context inherits -/

theorem mem_dues_cons {d : Derivation} {p : List Derivation} {due : Instant} :
    due ∈ dues (d :: p) ↔ d.due? = some due ∨ due ∈ dues p := by
  change (∃ x ∈ d :: p, x.due? = some due) ↔ _ ∨ ∃ x ∈ p, x.due? = some due
  simp

theorem dues_cons_of_none {d : Derivation} {p : List Derivation} (h : d.due? = none) :
    dues (d :: p) = dues p := by
  ext due
  rw [mem_dues_cons, h]
  simp

/-- The context has the tokens made on its path of descent, and the earliest deadline set there. -/
structure Context.Inherits (ctx : Context) (p : List Derivation) : Prop where
  tokens : ∀ token, token ∈ ctx.tokens ↔ ∃ d ∈ p, d.token? = some token
  unbounded : ctx.deadline = none → ∀ due, due ∉ dues p
  earliest : ∀ due, ctx.deadline = some due → IsLeast (dues p) due

namespace Context

variable {d : Derivation} {p : List Derivation}

/-- A background context inherits nothing. -/
theorem inherits_background (span : Option Span) (htoken : ∀ d ∈ p, d.token? = none)
    (hdue : ∀ d ∈ p, d.due? = none) : (background span).Inherits p where
  tokens token := by
    refine ⟨fun h ↦ absurd h List.not_mem_nil, ?_⟩
    rintro ⟨d, hd, h⟩
    rw [htoken d hd] at h
    cases h
  unbounded := by
    rintro - due ⟨d, hd, h⟩
    rw [hdue d hd] at h
    cases h
  earliest due h := by cases h

/-- A step of descent that adds neither a token nor a deadline. -/
theorem Inherits.plain {ctx' : Context} (h : ctx.Inherits p) (htokens : ctx'.tokens = ctx.tokens)
    (hdeadline : ctx'.deadline = ctx.deadline) (htoken : d.token? = none) (hdue : d.due? = none) :
    ctx'.Inherits (d :: p) := by
  constructor
  · intro token
    rw [htokens, h.tokens]
    simp [htoken]
  · rw [hdeadline, dues_cons_of_none hdue]
    exact h.unbounded
  · rw [hdeadline, dues_cons_of_none hdue]
    exact h.earliest

/-- A derivation with a token adds it to those inherited. -/
theorem Inherits.withToken {token : CancelToken} (h : ctx.Inherits p)
    (htoken : d.token? = some token) (hdue : d.due? = none) :
    (ctx.withToken token).Inherits (d :: p) := by
  constructor
  · intro other
    change other ∈ ctx.tokens ++ [token] ↔ _
    rw [List.mem_append, h.tokens]
    simp [htoken, or_comm, eq_comm]
  · rw [dues_cons_of_none hdue]
    exact h.unbounded
  · rw [dues_cons_of_none hdue]
    exact h.earliest

/-- A derivation with a deadline keeps the earlier of the two. -/
theorem Inherits.withDeadline {due : Instant} (h : ctx.Inherits p) (htoken : d.token? = none)
    (hdue : d.due? = some due) : (ctx.withDeadline due).Inherits (d :: p) := by
  constructor
  · intro token
    change token ∈ ctx.tokens ↔ _
    rw [h.tokens]
    simp [htoken]
  · intro hnone
    cases hnone
  · intro least hleast
    unfold Context.withDeadline at hleast
    cases hdeadline : ctx.deadline with
    | none =>
      obtain rfl : due = least := by simpa [hdeadline] using hleast
      refine ⟨mem_dues_cons.2 (.inl hdue), fun other hother ↦ ?_⟩
      rcases mem_dues_cons.1 hother with hnew | hold
      · exact Nat.le_of_eq (congrArg Instant.nanos (Option.some.inj (hdue.symm.trans hnew)))
      · exact absurd hold (h.unbounded hdeadline other)
    | some earlier =>
      have hearlier : IsLeast (dues p) earlier := h.earliest earlier hdeadline
      by_cases hlt : earlier < due
      · obtain rfl : earlier = least := by simpa [hdeadline, hlt] using hleast
        refine ⟨mem_dues_cons.2 (.inr hearlier.1), fun other hother ↦ ?_⟩
        rcases mem_dues_cons.1 hother with hnew | hold
        · obtain rfl := Option.some.inj (hdue.symm.trans hnew)
          exact Nat.le_of_lt hlt
        · exact hearlier.2 hold
      · obtain rfl : due = least := by simpa [hdeadline, hlt] using hleast
        refine ⟨mem_dues_cons.2 (.inl hdue), fun other hother ↦ ?_⟩
        rcases mem_dues_cons.1 hother with hnew | hold
        · exact Nat.le_of_eq (congrArg Instant.nanos (Option.some.inj (hdue.symm.trans hnew)))
        · exact Nat.le_trans (Nat.le_of_not_lt hlt) (hearlier.2 hold)

/-- What a context inherits from its parent and by its own last step. -/
theorem Inherits.perform {number : Nat} {effect : ContextEffect} {session : Session}
    (h : ctx.Inherits p) :
    (effect.perform none ctx session.moment session.world).1.Inherits
      (Derivation.onto ⟨number, effect, session⟩ p) := by
  cases effect with
  | background =>
    apply inherits_background
    · intro d hd
      rw [List.mem_singleton.1 hd]
      rfl
    · intro d hd
      rw [List.mem_singleton.1 hd]
      rfl
  | field name value => exact h.plain rfl rfl rfl rfl
  | span name => exact h.plain rfl rfl rfl rfl
  | deadline due => exact h.withDeadline rfl rfl
  | cancellation handle => exact h.withToken rfl rfl
  | timeout limit =>
    change (ctx.withTimeout session.now limit).Inherits _
    unfold withTimeout
    cases hdue : session.now.after? limit with
    | some due => exact h.withDeadline rfl hdue
    | none => exact h.plain rfl rfl rfl hdue

end Context

/-- Every context has the tokens and the earliest deadline of its path. -/
theorem inherits_after (h : (Family.after s past).contexts[number]? = some ctx) :
    ctx.Inherits (path s past number) := by
  induction past generalizing number ctx with
  | nil => cases h
  | cons turn past ih =>
    cases turn with
    | derive parent effect =>
      have hparent : ((Family.after s past).parent parent).Inherits (path s past parent) := by
        unfold Family.parent
        cases hp : (Family.after s past).contexts[parent]? with
        | some ctx => exact ih hp
        | none =>
          rw [List.getElem?_eq_none_iff, length_contexts_after] at hp
          rw [path_eq_nil hp]
          exact Context.inherits_background none (fun _ h ↦ absurd h List.not_mem_nil)
            fun _ h ↦ absurd h List.not_mem_nil
      have hnew : (Family.after s (.derive parent effect :: past)).contexts =
          (Family.after s past).contexts ++ [(effect.perform none
            ((Family.after s past).parent parent) (Family.after s past).session.moment
            (Family.after s past).session.world).1] := rfl
      rw [hnew] at h
      by_cases hnumber : number = made past
      · rw [hnumber, ← length_contexts_after s past, List.getElem?_concat_length] at h
        obtain rfl := Option.some.inj h
        rw [hnumber, path_derive_self]
        exact hparent.perform
      · have hlt : number < (Family.after s past).contexts.length := by
          have hbound := (List.getElem?_eq_some_iff.1 h).1
          rw [List.length_append, List.length_singleton] at hbound
          rw [length_contexts_after] at hbound ⊢
          omega
        rw [List.getElem?_append_left hlt] at h
        rw [path_derive_of_ne hnumber]
        exact ih h
    | use u => exact ih h
    | advance d => exact ih h

/-! ## When a context is done -/

/-- A context is cancelled exactly if the token of a derivation on its path has been. -/
theorem isCancelled_iff (h : (Family.after s past).contexts[number]? = some ctx) :
    ctx.isCancelled (Family.after s past).session.world.handles = true ↔
      ∃ d ∈ path s past number, Revoked d.number past := by
  have htokens := (inherits_after h).tokens
  unfold Context.isCancelled
  rw [List.any_eq_true]
  constructor
  · rintro ⟨token, htoken, hcancelled⟩
    obtain ⟨d, hd, hmade⟩ := (htokens token).1 htoken
    exact ⟨d, hd, (tracked_of_mem_path hd).revoked_iff.2 ⟨token, hmade, hcancelled⟩⟩
  · rintro ⟨d, hd, hrevoked⟩
    obtain ⟨token, hmade, hcancelled⟩ := (tracked_of_mem_path hd).revoked_iff.1 hrevoked
    exact ⟨token, (htokens token).2 ⟨d, hd, hmade⟩, hcancelled⟩

namespace Context

variable {p : List Derivation} {now : Instant}

/-- A context is expired exactly if the least deadline of its path has passed. -/
theorem Inherits.isExpired_iff (h : ctx.Inherits p) :
    ctx.isExpired now = true ↔ ∃ due, IsLeast (dues p) due ∧ due ≤ now := by
  unfold isExpired
  cases hdeadline : ctx.deadline with
  | none =>
    constructor
    · intro hexpired
      cases hexpired
    · rintro ⟨due, hleast, -⟩
      exact absurd hleast.1 (h.unbounded hdeadline due)
  | some earliest =>
    have hearliest := h.earliest earliest hdeadline
    rw [Option.any_some, decide_eq_true_eq]
    constructor
    · intro hnow
      exact ⟨earliest, hearliest, hnow⟩
    · rintro ⟨due, hleast, hnow⟩
      exact Nat.le_trans (hearliest.2 hleast.1) hnow

/-- A deadline anywhere on the path bounds the context. -/
theorem Inherits.isExpired_of_mem {due : Instant} (h : ctx.Inherits p) (hdue : due ∈ dues p)
    (hnow : due ≤ now) : ctx.isExpired now = true := by
  unfold isExpired
  cases hdeadline : ctx.deadline with
  | none => exact absurd hdue (h.unbounded hdeadline due)
  | some earliest =>
    rw [Option.any_some, decide_eq_true_eq]
    exact Nat.le_trans ((h.earliest earliest hdeadline).2 hdue) hnow

end Context

/-- A context is done whenever one that it descends from is. -/
theorem isSome_error?_of_ancestor {d : Derivation} {ancestor : Context}
    (h : (Family.after s past).contexts[number]? = some ctx) (hd : d ∈ path s past number)
    (hancestor : (Family.after s past).contexts[d.number]? = some ancestor)
    (hdone : ((Family.after s past).error? ancestor).isSome = true) :
    ((Family.after s past).error? ctx).isSome = true := by
  apply Context.isSome_error?_iff.2
  rcases Context.isSome_error?_iff.1 hdone with hcancelled | hexpired
  · obtain ⟨x, hx, hrevoked⟩ := (isCancelled_iff hancestor).1 hcancelled
    exact .inl ((isCancelled_iff h).2 ⟨x, mem_path_trans hd hx, hrevoked⟩)
  · obtain ⟨due, ⟨⟨x, hx, hdue⟩, -⟩, hnow⟩ := (inherits_after hancestor).isExpired_iff.1 hexpired
    exact .inr ((inherits_after h).isExpired_of_mem ⟨x, mem_path_trans hd hx, hdue⟩ hnow)

/-! ## What stays -/

theorem Family.getElem?_contexts_step (f : Family) (turn : ContextTurn)
    (h : f.contexts[number]? = some ctx) : (f.step turn).contexts[number]? = some ctx := by
  cases turn with
  | derive parent effect =>
    change (f.contexts ++ [_])[number]? = some ctx
    rw [List.getElem?_append_left (List.getElem?_eq_some_iff.1 h).1, h]
  | use u => exact h
  | advance d => exact h

/-- Nothing makes a cancelled token live again. -/
theorem Family.isCancelled_step (f : Family) (turn : ContextTurn) {token : CancelToken}
    (h : f.session.world.handles.isCancelled token = true) :
    (f.step turn).session.world.handles.isCancelled token = true := by
  cases turn with
  | derive parent effect =>
    change (effect.perform none (f.parent parent) f.session.moment
      f.session.world).2.handles.isCancelled token = true
    rw [handles_perform]
    cases effect with
    | cancellation handle =>
      unfold handlesAfter
      rw [Handles.isCancelled_issue]
      exact h
    | background | field | timeout | deadline | span => exact h
  | use u =>
    cases u with
    | cancel handle => exact Handles.isCancelled_cancel_iff.2 (.inl h)
    | drop handle => exact (f.session.world.handles.isCancelled_drop handle token).trans h
  | advance d => exact h

theorem Family.now_le_step (f : Family) (turn : ContextTurn) :
    f.session.now ≤ (f.step turn).session.now := by
  cases turn with
  | derive parent effect => exact Nat.le_refl _
  | use u => exact Nat.le_refl _
  | advance d => exact f.session.now.le_after d

theorem Context.isCancelled_step (f : Family) (turn : ContextTurn)
    (h : ctx.isCancelled f.session.world.handles = true) :
    ctx.isCancelled (f.step turn).session.world.handles = true := by
  obtain ⟨token, htoken, hcancelled⟩ := List.any_eq_true.1 h
  exact List.any_eq_true.2 ⟨token, htoken, f.isCancelled_step turn hcancelled⟩

/-- A deadline that has passed stays passed. -/
theorem Context.isExpired_mono {now later : Instant} (hle : now ≤ later)
    (h : ctx.isExpired now = true) : ctx.isExpired later = true := by
  unfold isExpired at h ⊢
  cases hdeadline : ctx.deadline with
  | none =>
    rw [hdeadline] at h
    cases h
  | some due =>
    rw [hdeadline, Option.any_some, decide_eq_true_eq] at h
    rw [Option.any_some, decide_eq_true_eq]
    exact Nat.le_trans h hle

/-- A context that is done stays done, and a cancelled one stays cancelled. -/
structure Lasts (ctx : Context) (f g : Family) : Prop where
  cancelled : f.error? ctx = some .cancelled → g.error? ctx = some .cancelled
  done : (f.error? ctx).isSome = true → (g.error? ctx).isSome = true

theorem lasts_step (ctx : Context) (f : Family) (turn : ContextTurn) :
    Lasts ctx f (f.step turn) where
  cancelled h := by
    apply Context.error?_eq_cancelled_iff.2
    exact Context.isCancelled_step f turn (Context.error?_eq_cancelled_iff.1 h)
  done h := by
    apply Context.isSome_error?_iff.2
    rcases Context.isSome_error?_iff.1 h with hcancelled | hexpired
    · exact .inl (Context.isCancelled_step f turn hcancelled)
    · exact .inr (Context.isExpired_mono (f.now_le_step turn) hexpired)

/-- A context that is done stays done, and a cancelled one stays cancelled, whatever happens
later. -/
theorem lasts_after (later : ContextPast) :
    Lasts ctx (Family.after s past) (Family.after s (later ++ past)) := by
  induction later with
  | nil => exact ⟨id, id⟩
  | cons turn later ih =>
    have hstep := lasts_step ctx (Family.after s (later ++ past)) turn
    exact ⟨fun h ↦ hstep.cancelled (ih.cancelled h), fun h ↦ hstep.done (ih.done h)⟩

theorem getElem?_contexts_after (h : (Family.after s past).contexts[number]? = some ctx)
    (later : ContextPast) :
    (Family.after s (later ++ past)).contexts[number]? = some ctx := by
  induction later with
  | nil => exact h
  | cons turn later ih => exact Family.getElem?_contexts_step _ turn ih

/-- Of every context that has been derived: it is cancelled exactly if a cancel was called on a
handle made on its path of descent; else it has expired exactly if the earliest deadline on that
path has come; it is done if one of those it descends from is; and in all that may come it stays
what it is, done if it is done and cancelled if it is cancelled. -/
theorem error?_of_descent (h : (Family.after s past).contexts[number]? = some ctx) :
    let f := Family.after s past
    (f.error? ctx = some .cancelled ↔ ∃ d ∈ path s past number, Revoked d.number past) ∧
    (f.error? ctx = some .deadlineExceeded ↔
      (¬ ∃ d ∈ path s past number, Revoked d.number past) ∧
        ∃ due, IsLeast (dues (path s past number)) due ∧ due ≤ f.session.now) ∧
    (∀ d ∈ path s past number, ∀ ancestor, f.contexts[d.number]? = some ancestor →
      (f.error? ancestor).isSome = true → (f.error? ctx).isSome = true) ∧
    ∀ later, (Family.after s (later ++ past)).contexts[number]? = some ctx ∧
      Lasts ctx f (Family.after s (later ++ past)) := by
  intro f
  refine ⟨?_, ?_, fun d hd ancestor hancestor ↦ isSome_error?_of_ancestor h hd hancestor,
    fun later ↦ ⟨getElem?_contexts_after h later, lasts_after later⟩⟩
  · exact Context.error?_eq_cancelled_iff.trans (isCancelled_iff h)
  · refine Context.error?_eq_deadlineExceeded_iff.trans (and_congr ?_ ?_)
    · exact not_congr (isCancelled_iff h)
    · exact (inherits_after h).isExpired_iff

/-- A cancellable context with two children, one that is given 5 s and one with a handle of its own.
The handle of the second child is dropped, and after 3 s the handle of the parent is cancelled. -/
def upbringing : ContextPast :=
  [.use (.cancel "outer"), .advance (.ofMillis 3000), .use (.drop "inner"),
    .derive 0 (.cancellation "inner"), .derive 0 (.timeout (.ofMillis 5000)),
    .derive 0 (.cancellation "outer")]

/-- The first child is cancelled through its parent, and not expired when its own time is over. -/
theorem error?_of_descent_upbringing :
    let s : Session := {}
    let f := Family.after s upbringing
    ∃ ctx, f.contexts[1]? = some ctx ∧
      (f.error? ctx = some .cancelled ↔ ∃ d ∈ path s upbringing 1, Revoked d.number upbringing) ∧
      f.error? ctx = some .cancelled ∧
      (Family.after s (.advance (.ofMillis 9000) :: upbringing)).error? ctx = some .cancelled := by
  intro s f
  obtain ⟨ctx, hctx⟩ : ∃ ctx, f.contexts[1]? = some ctx := ⟨_, rfl⟩
  obtain ⟨hcancelled, -, -, hlater⟩ := error?_of_descent hctx
  have hparent : ⟨0, .cancellation "outer", s⟩ ∈ path s upbringing 1 := by
    simp [upbringing, path, made, Derivation.onto, Family.after]
  have hrevoked : Revoked 0 upbringing := .inl rfl
  have herror : f.error? ctx = some .cancelled := hcancelled.2 ⟨_, hparent, hrevoked⟩
  exact ⟨ctx, hctx, hcancelled, herror, (hlater [_]).2.cancelled herror⟩

end ControlLoop
