import ControlLoop.Proofs.Pipeline.Events

/-!
# Courses

Two runs take the same course if they cannot be told apart but by their spans and by the log: they
answer alike and leave the same context, state and world at the same moment, or wait alike, and
their leaves start in the same order on the same contexts and states, at the same moments and in the
same worlds. The trail is part of the world, so they leave the same notes as well.

A pipeline is blind if its course does not depend on spans and on the log. Composers are blind if
their parts are, and then the course of the whole is made of the courses of its parts.
-/

namespace ControlLoop

namespace Context

/-- The context without its span. -/
def bare (ctx : Context) : Context := ctx.withSpan none

/-- Contexts that agree but for the span are each other with the span replaced. -/
theorem eq_withSpan_of_bare_eq {ctx ctx' : Context} (h : ctx.bare = ctx'.bare) :
    ctx' = ctx.withSpan ctx'.span := by
  obtain ⟨span, fields, tokens, deadline⟩ := ctx
  obtain ⟨span', fields', tokens', deadline'⟩ := ctx'
  cases h
  rfl

end Context

namespace Reply

def bare (reply : Reply) : Reply := { reply with ctx := reply.ctx.bare }

end Reply

namespace World

def unlogged (w : World) : World := { w with log := [] }

/-- Worlds that agree but for the log are each other with the log replaced. -/
theorem eq_of_unlogged_eq {w w' : World} (h : w.unlogged = w'.unlogged) :
    w' = { w with log := w'.log } := by
  obtain ⟨handles, store, failures, trail, log⟩ := w
  obtain ⟨handles', store', failures', trail', log'⟩ := w'
  cases h
  rfl

end World

namespace Schedule

def unlogged (s : Schedule) : Schedule := s.map fun poll ↦ (poll.1, poll.2.unlogged)

theorem unlogged_unlogged (s : Schedule) : s.unlogged.unlogged = s.unlogged := by
  unfold unlogged
  rw [List.map_map]
  rfl

end Schedule

namespace Point

/-- The point but for the span of its context and the log. -/
def bare (p : Point) : Point :=
  { p with
    ctx := p.ctx.bare
    world := p.world.unlogged
    coming := p.coming.unlogged }

/-- The point with more notes on the trail. -/
def noting (p : Point) (notes : List Note) : Point :=
  { p with world := { p.world with trail := p.world.trail ++ notes } }

variable {p q : Point}

@[simp] theorem scene_log (p : Point) (e : LogEntry) : (p.log e).scene = p.scene := rfl

@[simp] theorem scene_noting (p : Point) (notes : List Note) : (p.noting notes).scene = p.scene :=
  rfl

theorem noting_nil (p : Point) : p.noting [] = p := by
  unfold noting
  rw [List.append_nil]

theorem noting_noting (p : Point) (notes more : List Note) :
    (p.noting notes).noting more = p.noting (notes ++ more) := by
  simp [noting]

theorem bare_noting (p : Point) (notes : List Note) : (p.noting notes).bare = p.bare.noting notes :=
  rfl

@[simp] theorem bare_log (p : Point) (e : LogEntry) : (p.log e).bare = p.bare := rfl

@[simp] theorem bare_bare (p : Point) : p.bare.bare = p.bare := by
  unfold bare
  rw [Schedule.unlogged_unlogged]
  rfl

/-- Two points agree but for spans and the log if each part of them does. -/
theorem bare_eq_iff : p.bare = q.bare ↔
    p.ctx.bare = q.ctx.bare ∧ p.state = q.state ∧ p.moment = q.moment ∧
      p.world.unlogged = q.world.unlogged ∧ p.coming.unlogged = q.coming.unlogged := by
  unfold bare
  rw [Point.mk.injEq]

/-- Whether the context is done depends neither on its span nor on the log. -/
theorem error?_eq_of_bare_eq (h : p.bare = q.bare) : p.error? = q.error? := by
  have hbare : p.bare.error? = q.bare.error? := by rw [h]
  exact hbare

end Point

namespace Standing

def bare : Standing Reply → Standing Reply
  | .finished reply m w rest =>
    .finished reply.bare m w.unlogged rest.unlogged
  | .waiting m w u => .waiting m w.unlogged u

theorem bare_answer (p : Point) (s : Signal) : (p.answer s).bare = p.bare.answer s := rfl

theorem bare_stoppedBy (name : String) (st : Standing Reply) :
    (st.stoppedBy name).bare = st.bare := by
  cases st <;> rfl

theorem next?_bare (st : Standing Reply) : st.bare.next? = st.next?.map Point.bare := by
  cases st with
  | waiting m w u => rfl
  | finished reply m w rest =>
    cases hterminal : reply.signal.isTerminal <;>
      simp [bare, next?, hterminal, Point.bare, Reply.bare]

end Standing

namespace Visit

def bare (v : Visit) : Visit := ⟨v.action, none, v.start.bare⟩

end Visit

/-- Neither spans nor the log make a difference to where the action comes to stand. -/
def Action.Blind (a : Action) : Prop :=
  ∀ span span' start start', start.bare = start'.bare →
    (a.play span start).bare = (a.play span' start').bare

theorem Action.blind_always (name : String) (signal : Signal) : (always name signal).Blind := by
  intro span span' start start' hstart
  change start.bare.answer signal = start'.bare.answer signal
  rw [hstart]

/-- The span of the context makes no difference to the predicate. -/
def Predicate.Blind (p : Predicate) : Prop :=
  ∀ (s : Scene) (span : Option Span), p.eval { s with ctx := s.ctx.withSpan span } = p.eval s

/-- A blind predicate has the same value and asks the same leaves at points that agree. -/
theorem Predicate.Blind.eval_eq {p : Predicate} (h : p.Blind) {start start' : Point}
    (hstart : start.bare = start'.bare) : p.eval start.scene = p.eval start'.scene := by
  calc p.eval start.scene = p.eval start.bare.scene := (h start.scene none).symm
    _ = p.eval start'.bare.scene := by rw [hstart]
    _ = p.eval start'.scene := h start'.scene none

/-- What can be seen of a run but for its spans and the log: where it stands in the end, and the
starts of its leaves. -/
@[ext]
structure Course where
  standing : Standing Reply
  starts : List Visit

namespace Course

/-- The course of a run that answers at once. -/
def answer (p : Point) (s : Signal) : Course := ⟨p.bare.answer s, []⟩

/-- Goes on from the point that the course leaves to a successor, if it leaves one. -/
def andThen (c : Course) (f : Point → Course) : Course :=
  match c.standing.next? with
  | some q => ⟨(f q).standing, c.starts ++ (f q).starts⟩
  | none => c

variable {c : Course} {f g : Point → Course} {p : Point}

theorem andThen_of_eq_none (h : c.standing.next? = none) : c.andThen f = c := by
  unfold andThen
  rw [h]

theorem andThen_of_eq_some {q : Point} (h : c.standing.next? = some q) :
    c.andThen f = ⟨(f q).standing, c.starts ++ (f q).starts⟩ := by
  unfold andThen
  rw [h]

theorem answer_proceed_andThen (p : Point) (f : Point → Course) :
    (answer p .proceed).andThen f = f p.bare :=
  andThen_of_eq_some rfl

theorem answer_propagate_andThen (p : Point) (e : Error) (f : Point → Course) :
    (answer p (.propagate e)).andThen f = answer p (.propagate e) :=
  andThen_of_eq_none rfl

/-- Continuations of a course can be grouped either way. -/
theorem andThen_assoc (c : Course) (f g : Point → Course) :
    (c.andThen f).andThen g = c.andThen fun q ↦ (f q).andThen g := by
  cases hc : c.standing.next? with
  | none => rw [andThen_of_eq_none hc, andThen_of_eq_none hc, andThen_of_eq_none hc]
  | some q =>
    rw [andThen_of_eq_some hc, andThen_of_eq_some hc]
    cases hf : (f q).standing.next? with
    | none =>
      rw [andThen_of_eq_none (c := f q) hf]
      exact andThen_of_eq_none hf
    | some r =>
      rw [andThen_of_eq_some (c := f q) hf, ← List.append_assoc]
      exact andThen_of_eq_some hf

end Course

namespace Event

def start? : Event → Option Visit
  | .visited v => some v.bare
  | .contextDone _ _ => none

end Event

namespace Pipeline

/-- The course of the pipeline run inside a span from a point. -/
def course (p : Pipeline) (span : Option Span) (start : Point) : Course :=
  ⟨(p.play span start).bare, (p.events span start).filterMap Event.start?⟩

/-- Neither spans nor the log make a difference to the course of the pipeline. -/
def Blind (p : Pipeline) : Prop :=
  ∀ span span' start start', start.bare = start'.bare → p.course span start = p.course span' start'

/-- A leaf is blind if its action is. -/
theorem Blind.leaf {a : Action} (h : a.Blind) : (Pipeline.leaf a).Blind := by
  intro span span' start start' hstart
  have hstarts : Visit.bare ⟨a, span, start⟩ = Visit.bare ⟨a, span', start'⟩ :=
    congrArg (Visit.mk a none) hstart
  ext1
  · exact h span span' start start' hstart
  · unfold course events
    exact congrArg (fun v ↦ [v]) hstarts

/-! ## Parts in order -/

/-- The course of blind parts run in order, each but for a check that the context is not done. -/
def partsCourse : List Pipeline → Point → Course
  | [], start => .answer start .proceed
  | p :: ps, start =>
    match start.error? with
    | some e => .answer start (.propagate e)
    | none => (p.course none start).andThen (partsCourse ps)

variable {name : String} {p : Pipeline} {parts ps xs ys : List Pipeline} {start start' : Point}
  {e : Error}

theorem partsCourse_cons_of_done (h : start.error? = some e) :
    partsCourse (p :: ps) start = .answer start (.propagate e) := by
  rw [partsCourse, h]

/-- In a context that is not done, the first part runs and then the others. -/
theorem partsCourse_cons (h : start.error? = none) :
    partsCourse (p :: ps) start = (p.course none start).andThen (partsCourse ps) := by
  rw [partsCourse, h]

/-- The course of blind parts depends neither on spans nor on the log of where they start. -/
theorem partsCourse_congr (hblind : ∀ p ∈ ps, p.Blind) (h : start.bare = start'.bare) :
    partsCourse ps start = partsCourse ps start' := by
  have herror := Point.error?_eq_of_bare_eq h
  cases ps with
  | nil =>
    unfold partsCourse Course.answer
    rw [h]
  | cons p ps =>
    cases hdone : start'.error? with
    | some e =>
      rw [partsCourse_cons_of_done hdone, partsCourse_cons_of_done (herror.trans hdone)]
      unfold Course.answer
      rw [h]
    | none =>
      rw [partsCourse_cons hdone, partsCourse_cons (herror.trans hdone),
        hblind p List.mem_cons_self none none start start' h]

/-- Parts run in order by a sequence take the course that is made of theirs. -/
theorem course_parts (hblind : ∀ p ∈ parts, p.Blind) (name : String) (start : Point) :
    (⟨(playParts name parts start).bare, (partEvents name parts start).filterMap Event.start?⟩ :
      Course) = partsCourse parts start := by
  induction parts generalizing start with
  | nil =>
    rw [playParts_nil, partEvents_nil]
    rfl
  | cons p ps ih =>
    obtain ⟨hp, hps⟩ := List.forall_mem_cons.1 hblind
    cases hdone : start.error? with
    | some e =>
      rw [playParts_cons_of_done hdone, partEvents_cons_of_done hdone,
        partsCourse_cons_of_done hdone]
      rfl
    | none =>
      have hcourse : p.course none start =
          p.course (some (.sequence name)) (start.log (.running p.action.name)) :=
        hp none _ start _ (Point.bare_log start _).symm
      rw [playParts_cons hdone, partEvents_cons hdone, partsCourse_cons hdone, hcourse,
        List.filterMap_append]
      cases hnext : (p.play (some (.sequence name)) (start.log (.running p.action.name))).next? with
      | none =>
        rw [Course.andThen_of_eq_none]
        · rw [Standing.bare_stoppedBy, List.filterMap_nil, List.append_nil]
          rfl
        · rw [course, Standing.next?_bare, hnext]
          rfl
      | some next =>
        have hrest := (ih hps next).trans (partsCourse_congr hps (Point.bare_bare next).symm)
        rw [Course.andThen_of_eq_some (q := next.bare), ← hrest]
        · rfl
        · rw [course, Standing.next?_bare, hnext]
          rfl

/-- The course of a sequence of blind parts is made of theirs. -/
theorem course_sequence (hblind : ∀ p ∈ parts, p.Blind) (name : String) (span : Option Span)
    (start : Point) : (sequence name parts).course span start = partsCourse parts start := by
  unfold course
  rw [play_sequence, events_sequence, course_parts hblind]
  exact partsCourse_congr hblind (Point.bare_log start _)

/-- A sequence of blind parts is blind. -/
theorem Blind.sequence (hblind : ∀ p ∈ parts, p.Blind) (name : String) :
    (Pipeline.sequence name parts).Blind := by
  intro span span' start start' hstart
  rw [course_sequence hblind, course_sequence hblind]
  exact partsCourse_congr hblind hstart

/-- Parts in order take the course of the first of them and then that of the others. -/
theorem partsCourse_append (hys : ∀ p ∈ ys, p.Blind) (xs : List Pipeline) (start : Point) :
    partsCourse (xs ++ ys) start = (partsCourse xs start).andThen (partsCourse ys) := by
  induction xs generalizing start with
  | nil =>
    rw [List.nil_append, partsCourse, Course.answer_proceed_andThen]
    exact partsCourse_congr hys (Point.bare_bare start).symm
  | cons x xs ih =>
    rw [List.cons_append]
    cases hdone : start.error? with
    | some e =>
      rw [partsCourse_cons_of_done hdone, partsCourse_cons_of_done hdone,
        Course.answer_propagate_andThen]
    | none =>
      rw [partsCourse_cons hdone, partsCourse_cons hdone, Course.andThen_assoc]
      exact congrArg _ (funext ih)

/-! ## Choices -/

/-- The notes of the predicates that a switch asks: all up to the first that holds. -/
def asked (s : Scene) : List (Predicate × Pipeline) → List Note
  | [] => []
  | c :: cs => (c.1.eval s).2 ++ if (c.1.eval s).1 then [] else asked s cs

theorem snd_select_caseActions (s : Scene) (index : Nat) (cases : List (Predicate × Pipeline)) :
    (Case.select s index (caseActions cases)).2 = asked s cases := by
  induction cases generalizing index with
  | nil => rfl
  | cons c cs ih =>
    obtain ⟨predicate, p⟩ := c
    have hrest := ih (index + 1)
    simp only [caseActions, caseAction, Case.select, asked] at hrest ⊢
    cases predicate.eval s with
    | mk holds notes =>
      cases holds with
      | true => exact (List.append_nil notes).symm
      | false => exact congrArg (notes ++ ·) hrest

/-- Choosing asks predicates and tells the log which case matched. -/
theorem choosing_eq (name : String) (cases : List (Predicate × Pipeline))
    (default : Option Pipeline) (start : Point) :
    choosing name cases default start =
      ((start.log (.switchOpened name start.ctx.span)).noting (asked start.scene cases)).log
        (match (Case.select start.scene 0 (caseActions cases)).1 with
          | some (index, action) => .caseMatched index action.name
          | none => .noCaseMatched) := by
  have hselect : Case.select ⟨start.ctx, start.state, start.moment.now,
      (start.log (.switchOpened name start.ctx.span)).world.handles⟩ 0 (caseActions cases) =
    Case.select start.scene 0 (caseActions cases) := rfl
  rw [← snd_select_caseActions start.scene 0]
  unfold choosing Point.choosing
  simp only [Act.choose_eq, hselect]
  cases (Case.select start.scene 0 (caseActions cases)).1 <;> rfl

/-- The point at which a switch runs its part differs by the notes of what was asked. -/
theorem bare_choosing (name : String) (cases : List (Predicate × Pipeline))
    (default : Option Pipeline) (start : Point) :
    (choosing name cases default start).bare = start.bare.noting (asked start.scene cases) := by
  rw [choosing_eq, Point.bare_log, Point.bare_noting, Point.bare_log]

/-- A switch takes the course of the part that it chooses. -/
theorem course_switch (name : String) (cases : List (Predicate × Pipeline))
    (default : Option Pipeline) (span : Option Span) (start : Point) :
    (switch name cases default).course span start =
      match choice? start.scene cases default with
      | some p => p.course (some (.switch name)) (choosing name cases default start)
      | none => .answer (start.noting (asked start.scene cases)) .proceed := by
  unfold course
  rw [play_switch, events_switch]
  cases choice? start.scene cases default with
  | some p => rfl
  | none =>
    rw [Standing.bare_answer, bare_choosing]
    rfl

section Congruence

variable {cases : List (Predicate × Pipeline)} {default : Option Pipeline} {start start' : Point}

theorem choice?_congr (hcases : ∀ c ∈ cases, c.1.Blind) (hstart : start.bare = start'.bare) :
    choice? start.scene cases default = choice? start'.scene cases default := by
  induction cases with
  | nil => rfl
  | cons c cs ih =>
    obtain ⟨hc, hcs⟩ := List.forall_mem_cons.1 hcases
    have hrest := ih hcs
    simp only [choice?, List.find?_cons, hc.eval_eq hstart] at hrest ⊢
    cases (c.1.eval start'.scene).1 with
    | true => rfl
    | false => exact hrest

theorem asked_congr (hcases : ∀ c ∈ cases, c.1.Blind) (hstart : start.bare = start'.bare) :
    asked start.scene cases = asked start'.scene cases := by
  induction cases with
  | nil => rfl
  | cons c cs ih =>
    obtain ⟨hc, hcs⟩ := List.forall_mem_cons.1 hcases
    rw [asked, asked, hc.eval_eq hstart, ih hcs]

/-- A switch is blind if its predicates and the parts it can run are. -/
theorem Blind.switch (hpredicates : ∀ c ∈ cases, c.1.Blind) (hcases : ∀ c ∈ cases, c.2.Blind)
    (hdefault : ∀ p, default = some p → p.Blind) (name : String) :
    (Pipeline.switch name cases default).Blind := by
  intro span span' start start' hstart
  have hasked := asked_congr hpredicates hstart
  rw [course_switch, course_switch, choice?_congr hpredicates hstart]
  cases hchoice : choice? start'.scene cases default with
  | none =>
    unfold Course.answer
    rw [Point.bare_noting, Point.bare_noting, hstart, hasked]
  | some p =>
    have hp : p.Blind := by
      obtain ⟨c, hc, rfl⟩ | hdef := mem_or_eq_of_choice? hchoice
      · exact hcases c hc
      · exact hdefault p hdef
    apply hp
    rw [bare_choosing, bare_choosing, hstart, hasked]

end Congruence

/-- A pipeline of blind leaves whose switches ask blind predicates is blind. -/
theorem blind_of_leaves {p : Pipeline} (hleaves : ∀ a, Part (.leaf a) p → a.Blind)
    (hpredicates : ∀ name cases default, Part (.switch name cases default) p →
      ∀ c ∈ cases, c.1.Blind) : p.Blind := by
  induction p with
  | leaf a => exact .leaf (hleaves a .self)
  | sequence name parts ih =>
    apply Blind.sequence
    intro p hp
    exact ih p hp (fun a part ↦ hleaves a (.sequence hp part))
      fun name cases default part ↦ hpredicates name cases default (.sequence hp part)
  | switch name cases default ihCases ihDefault =>
    apply Blind.switch (hpredicates name cases default .self)
    · intro c hc
      exact ihCases c hc (fun a part ↦ hleaves a (.case hc part))
        fun name cases default part ↦ hpredicates name cases default (.case hc part)
    · rintro p rfl
      exact ihDefault p rfl (fun a part ↦ hleaves a (.default part))
        fun name cases default part ↦ hpredicates name cases default (.default part)

end Pipeline

end ControlLoop
