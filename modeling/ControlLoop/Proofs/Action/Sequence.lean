import ControlLoop.Action.Sequence
import ControlLoop.Proofs.Action.Visit

/-!
# The history of a sequence

A sequence visits its actions from the left. Its history says which actions it starts, from which
points, and how it ends: an action is started exactly if all before it have proceeded and the
context that they left is not done, and it starts at the very point that the last of them left. The
sequence then stands as its last action stands, stops on a done context, or proceeds at its end.

The actions are arbitrary: they may wait, cancel, replace the context and change the world.
-/

namespace ControlLoop.Action

/-- Where actions run in order from a point stand in the end. -/
def playAll (span : Option Span) (actions : List Action) (p : Point) : Standing Reply :=
  (runAll span actions p.ctx p.state).play p.moment p.world p.coming

theorem playAll_cons_of_done {span : Option Span} {a : Action} {rest : List Action} {p : Point}
    {e : Error} (h : p.error? = some e) :
    playAll span (a :: rest) p = (p.log (.contextDone a.name e)).answer (.propagate e) := by
  have hcheck : (Act.contextError p.ctx p.moment p.world).1 = some e := h
  rw [playAll, runAll, Run.play_lift_bind, hcheck]
  rfl

/-- The first action is announced and played, and the others follow if it lets them. -/
theorem playAll_cons {span : Option Span} {a : Action} {rest : List Action} {p : Point}
    (h : p.error? = none) :
    playAll span (a :: rest) p =
      match (a.play span (p.log (.running a.name))).next? with
      | some next => playAll span rest next
      | none => (a.play span (p.log (.running a.name))).stoppedBy a.name := by
  have hcheck : (Act.contextError p.ctx p.moment p.world).1 = none := h
  have hrun : playAll span (a :: rest) p =
      (a.play span (p.log (.running a.name))).andThen fun reply m w coming ↦
        (if reply.signal.isTerminal then do
            Act.log (.stopped a.name reply.signal)
            return reply
          else runAll span rest reply.ctx reply.state : Run Reply).play m w coming := by
    rw [playAll, runAll, Run.play_lift_bind, hcheck]
    exact Run.play_bind (a.run span p.ctx p.state) _ _ _ _
  rw [hrun]
  cases a.play span (p.log (.running a.name)) with
  | waiting m w u => rfl
  | finished reply m w coming =>
    by_cases hterminal : reply.signal.isTerminal
    · simp only [Standing.andThen, Standing.next?, hterminal, if_true]
      rfl
    · simp only [Standing.andThen, Standing.next?, hterminal]
      rfl

theorem play_sequence (name : String) (actions : List Action) (span : Option Span) (p : Point) :
    (sequence name actions).play span p =
      playAll (some (.sequence name)) actions (p.log (.sequenceOpened name p.ctx.span)) := rfl

/-- How far actions run in order have come: to the point before the next one, or to their end. -/
inductive Advance where
  | going (p : Point)
  | over (standing : Standing Reply)

namespace Advance

/-- Goes on with one more action unless it is over. -/
def step (span : Option Span) : Advance → Action → Advance
  | .over standing, _ => .over standing
  | .going p, a =>
    match p.error? with
    | some e => .over ((p.log (.contextDone a.name e)).answer (.propagate e))
    | none =>
      match (a.play span (p.log (.running a.name))).next? with
      | some next => .going next
      | none => .over ((a.play span (p.log (.running a.name))).stoppedBy a.name)

def standing : Advance → Standing Reply
  | .going p => p.answer .proceed
  | .over standing => standing

/-- A sequence that is over stays as it is, whatever actions are left. -/
theorem foldl_over (span : Option Span) (actions : List Action) (standing : Standing Reply) :
    actions.foldl (step span) (.over standing) = .over standing := by
  induction actions with
  | nil => rfl
  | cons a rest ih => exact ih

end Advance

/-- Playing the actions of a sequence is a fold of its steps from the left. -/
theorem playAll_eq_foldl (span : Option Span) (actions : List Action) (p : Point) :
    playAll span actions p = (actions.foldl (Advance.step span) (.going p)).standing := by
  induction actions generalizing p with
  | nil => rfl
  | cons a rest ih =>
    rw [List.foldl_cons, Advance.step]
    cases herror : p.error? with
    | some e =>
      rw [playAll_cons_of_done herror, Advance.foldl_over]
      rfl
    | none =>
      rw [playAll_cons herror]
      cases (a.play span (p.log (.running a.name))).next? with
      | some next => exact ih next
      | none =>
        rw [Advance.foldl_over]
        rfl

/-- The starts of actions run in order from a point. -/
def visits (span : Option Span) : List Action → Point → List Visit
  | [], _ => []
  | a :: rest, p =>
    match p.error? with
    | some _ => []
    | none =>
      let first : Visit := ⟨a, span, p.log (.running a.name)⟩
      first :: match first.next? with
        | some next => visits span rest next
        | none => []

/-- The point before the `i`-th action: the start of all, or the point that the visit before it left
by proceeding. -/
def pointBefore (start : Point) (visits : List Visit) : Nat → Option Point
  | 0 => some start
  | i + 1 => visits[i]?.bind Visit.next?

/-- How actions run in order come to stand after their visits. -/
inductive Ending (actions : List Action) (start : Point) (visits : List Visit) :
    Standing Reply → Prop
  | exhausted {p : Point} (length_eq : visits.length = actions.length)
      (point : pointBefore start visits visits.length = some p) :
      Ending actions start visits (p.answer .proceed)
  | contextDone {p : Point} {a : Action} {e : Error} (next : actions[visits.length]? = some a)
      (point : pointBefore start visits visits.length = some p) (error : p.error? = some e) :
      Ending actions start visits ((p.log (.contextDone a.name e)).answer (.propagate e))
  | stopped {v : Visit} {reply : Reply} {m : Moment} {w : World} {rest : Schedule}
      (last : visits.getLast? = some v) (standing : v.standing = .finished reply m w rest)
      (terminal : reply.signal ≠ .proceed) :
      Ending actions start visits
        (.finished reply m (w.logged (.stopped v.action.name reply.signal)) rest)
  | waiting {v : Visit} {m : Moment} {w : World} {u : Wake}
      (last : visits.getLast? = some v) (standing : v.standing = .waiting m w u) :
      Ending actions start visits (.waiting m w u)

/-- The history of actions run in order from a point, which come to the given standing. -/
structure History (span : Option Span) (actions : List Action) (start : Point)
    (visits : List Visit) (standing : Standing Reply) : Prop where
  /-- The started actions are the first ones, in their order and each once. -/
  actions_eq : visits.map Visit.action = actions.take visits.length
  /-- Each starts on the context and state, at the time and in the world left by the one before. -/
  start_eq : ∀ i v, visits[i]? = some v → ∃ p, pointBefore start visits i = some p ∧
    v = ⟨v.action, span, p.log (.running v.action.name)⟩
  /-- An action starts if and only if those before it proceeded and left a context not yet done. -/
  starts_iff : ∀ i < actions.length,
    (i < visits.length ↔ ∃ p, pointBefore start visits i = some p ∧ p.error? = none)
  ending : Ending actions start visits standing

variable {span : Option Span} {a : Action} {rest : List Action} {start next : Point}
  {v : Visit} {vs : List Visit} {standing : Standing Reply}

theorem pointBefore_cons (h : v.next? = some next) (i : Nat) :
    pointBefore start (v :: vs) (i + 1) = pointBefore next vs i := by
  cases i with
  | zero => exact h
  | succ i => rfl

theorem pointBefore_singleton (h : v.next? = none) (i : Nat) :
    pointBefore start [v] (i + 1) = none := by
  cases i with
  | zero => exact h
  | succ i => rfl

theorem Ending.cons (h : v.next? = some next) (hend : Ending rest next vs standing) :
    Ending (a :: rest) start (v :: vs) standing := by
  have hpoint : pointBefore start (v :: vs) (v :: vs).length = pointBefore next vs vs.length :=
    pointBefore_cons h vs.length
  cases hend with
  | exhausted length_eq point =>
    exact .exhausted (congrArg (· + 1) length_eq) (hpoint.trans point)
  | contextDone next point error => exact .contextDone next (hpoint.trans point) error
  | stopped last standing terminal =>
    refine .stopped ?_ standing terminal
    rw [List.getLast?_cons, last]
    rfl
  | waiting last standing =>
    refine .waiting ?_ standing
    rw [List.getLast?_cons, last]
    rfl

namespace History

theorem nil (span : Option Span) (start : Point) :
    History span [] start [] (start.answer .proceed) where
  actions_eq := rfl
  start_eq i v h := by simp at h
  starts_iff i h := by simp at h
  ending := .exhausted rfl rfl

theorem done {e : Error} (h : start.error? = some e) :
    History span (a :: rest) start []
      ((start.log (.contextDone a.name e)).answer (.propagate e)) where
  actions_eq := rfl
  start_eq i v hv := by simp at hv
  starts_iff i hi := by
    cases i with
    | zero => simp [pointBefore, h]
    | succ i => simp [pointBefore]
  ending := .contextDone rfl rfl h

/-- The history of actions of which the first does not proceed. -/
theorem stop (hstart : start.error? = none)
    (hv : v = ⟨a, span, start.log (.running a.name)⟩) (hnext : v.next? = none) :
    History span (a :: rest) start [v] (v.standing.stoppedBy a.name) where
  actions_eq := by rw [hv]; rfl
  start_eq i u hu := by
    cases i with
    | zero =>
      obtain rfl : v = u := Option.some.inj hu
      exact ⟨start, rfl, by rw [hv]⟩
    | succ i => simp at hu
  starts_iff i hi := by
    cases i with
    | zero => exact ⟨fun _ ↦ ⟨start, rfl, hstart⟩, fun _ ↦ Nat.one_pos⟩
    | succ i => simp [pointBefore_singleton hnext]
  ending := by
    have hname : v.action.name = a.name := by rw [hv]
    cases hs : v.standing with
    | waiting m w u => exact .waiting rfl hs
    | finished reply m w coming =>
      rw [Visit.next?, hs] at hnext
      have hterminal := Standing.next?_finished_eq_none_iff.1 hnext
      rw [← hname]
      exact .stopped rfl hs hterminal

/-- The history of actions of which the first leaves a point to the others. -/
theorem cons (hstart : start.error? = none)
    (hv : v = ⟨a, span, start.log (.running a.name)⟩) (hnext : v.next? = some next)
    (h : History span rest next vs standing) :
    History span (a :: rest) start (v :: vs) standing where
  actions_eq := by
    rw [List.map_cons, List.length_cons, List.take_succ_cons, h.actions_eq, hv]
  start_eq i u hu := by
    cases i with
    | zero =>
      obtain rfl : v = u := Option.some.inj hu
      exact ⟨start, rfl, by rw [hv]⟩
    | succ i =>
      rw [pointBefore_cons hnext]
      exact h.start_eq i u hu
  starts_iff i hi := by
    cases i with
    | zero => exact ⟨fun _ ↦ ⟨start, rfl, hstart⟩, fun _ ↦ Nat.succ_pos _⟩
    | succ i =>
      rw [pointBefore_cons hnext, ← h.starts_iff i (Nat.lt_of_succ_lt_succ hi)]
      exact Nat.succ_lt_succ_iff
  ending := h.ending.cons hnext

end History

/-- The visits of a sequence are a history of it: consecutive, and ended as the sequence ends. -/
theorem history_playAll (span : Option Span) (actions : List Action) (start : Point) :
    History span actions start (visits span actions start) (playAll span actions start) := by
  induction actions generalizing start with
  | nil => exact .nil span start
  | cons a rest ih =>
    cases herror : start.error? with
    | some e =>
      rw [playAll_cons_of_done herror, visits, herror]
      exact .done herror
    | none =>
      have hvisits : visits span (a :: rest) start =
          let first : Visit := ⟨a, span, start.log (.running a.name)⟩
          first :: match first.next? with
            | some next => visits span rest next
            | none => [] := by
        rw [visits, herror]
      rw [playAll_cons herror, hvisits]
      cases hnext : (a.play span (start.log (.running a.name))).next? with
      | none => simpa only [Visit.next?, Visit.standing, hnext] using History.stop herror rfl hnext
      | some next =>
        simpa only [Visit.next?, Visit.standing, hnext] using
          History.cons herror rfl hnext (ih next)

/-- A sequence is the fold of its actions from the left, and its history is that of the fold. -/
theorem sequence_eq_foldl_and_history (name : String) (actions : List Action) (span : Option Span)
    (p : Point) :
    let inner : Option Span := some (.sequence name)
    let start := p.log (.sequenceOpened name p.ctx.span)
    (sequence name actions).play span p =
        (actions.foldl (Advance.step inner) (.going start)).standing ∧
      History inner actions start (visits inner actions start)
        ((sequence name actions).play span p) := by
  rw [play_sequence]
  exact ⟨playAll_eq_foldl _ _ _, history_playAll _ _ _⟩

end ControlLoop.Action
