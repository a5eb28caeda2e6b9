import ControlLoop.Action.Pipeline
import ControlLoop.Proofs.Action.Sequence
import ControlLoop.Proofs.Action.Switch

/-!
# The events of a pipeline

What happens when a pipeline is run from a point: leaves are started, one after the other and at any
depth, and a sequence may find the context done. The events are read off the runs of the parts; they
do not run anything in another way. A part is a pipeline at any depth of a pipeline.
-/

namespace ControlLoop

namespace Pipeline

/-- What holds of every leaf, and of a composer if of all its parts, holds of every pipeline. -/
@[elab_as_elim, induction_eliminator]
theorem induction {motive : Pipeline → Prop} (leaf : ∀ action, motive (.leaf action))
    (sequence : ∀ name parts, (∀ p ∈ parts, motive p) → motive (.sequence name parts))
    (switch : ∀ name cases default, (∀ c ∈ cases, motive c.2) →
      (∀ p, default = some p → motive p) → motive (.switch name cases default)) :
    ∀ p, motive p := by
  apply Pipeline.rec
    (motive_1 := motive)
    (motive_2 := fun parts ↦ ∀ p ∈ parts, motive p)
    (motive_3 := fun cases ↦ ∀ c ∈ cases, motive c.2)
    (motive_4 := fun default ↦ ∀ p, default = some p → motive p)
    (motive_5 := fun c ↦ motive c.2)
    leaf sequence switch
  · simp
  · intro p ps hp hps
    exact List.forall_mem_cons.2 ⟨hp, hps⟩
  · simp
  · intro c cs hc hcs
    exact List.forall_mem_cons.2 ⟨hc, hcs⟩
  · simp
  · intro p hp q hq
    exact Option.some.inj hq ▸ hp
  · exact fun _ _ hp ↦ hp

/-- A pipeline at any depth of another. -/
inductive Part (p : Pipeline) : Pipeline → Prop
  | self : Part p p
  | sequence {name : String} {parts : List Pipeline} {q : Pipeline} (mem : q ∈ parts)
      (part : Part p q) : Part p (.sequence name parts)
  | case {name : String} {cases : List (Predicate × Pipeline)} {default : Option Pipeline}
      {c : Predicate × Pipeline} (mem : c ∈ cases) (part : Part p c.2) :
      Part p (.switch name cases default)
  | default {name : String} {cases : List (Predicate × Pipeline)} {q : Pipeline}
      (part : Part p q) : Part p (.switch name cases (some q))

/-- Where a pipeline run from a point stands in the end. -/
def play (p : Pipeline) (span : Option Span) (start : Point) : Standing Reply :=
  p.action.play span start

/-- The part that a switch runs: that of the first case that holds, else the default. -/
def choice? (s : Scene) (cases : List (Predicate × Pipeline)) (default : Option Pipeline) :
    Option Pipeline :=
  match cases.find? fun c ↦ (c.1.eval s).1 with
  | some c => some c.2
  | none => default

/-- What a switch chooses is the part of a case or the default. -/
theorem mem_or_eq_of_choice? {s : Scene} {cases : List (Predicate × Pipeline)}
    {default : Option Pipeline} {p : Pipeline} (h : choice? s cases default = some p) :
    (∃ c ∈ cases, c.2 = p) ∨ default = some p := by
  unfold choice? at h
  split at h
  · next c hc => exact .inl ⟨c, List.mem_of_find?_eq_some hc, Option.some.inj h⟩
  · exact .inr h

theorem sizeOf_lt_of_choice? {s : Scene} {name : String} {cases : List (Predicate × Pipeline)}
    {default : Option Pipeline} {p : Pipeline} (h : choice? s cases default = some p) :
    sizeOf p < sizeOf (switch name cases default) := by
  obtain ⟨⟨predicate, q⟩, hc, rfl⟩ | rfl := mem_or_eq_of_choice? h
  · have hcase := List.sizeOf_lt_of_mem hc
    simp only [switch.sizeOf_spec, Prod.mk.sizeOf_spec] at hcase ⊢
    omega
  · simp only [switch.sizeOf_spec, Option.some.sizeOf_spec]
    omega

theorem Part.of_choice? {s : Scene} {name : String} {cases : List (Predicate × Pipeline)}
    {default : Option Pipeline} {p q : Pipeline} (h : choice? s cases default = some q)
    (part : Part p q) : Part p (.switch name cases default) := by
  obtain ⟨c, hc, rfl⟩ | rfl := mem_or_eq_of_choice? h
  · exact .case hc part
  · exact .default part

/-! ## Where pipelines stand -/

theorem play_leaf (action : Action) (span : Option Span) (start : Point) :
    (leaf action).play span start = action.play span start := rfl

/-- Where parts that a sequence runs in order from a point stand in the end. -/
def playParts (name : String) (parts : List Pipeline) (start : Point) : Standing Reply :=
  Action.playAll (some (.sequence name)) (partActions parts) start

theorem playParts_nil (name : String) (start : Point) :
    playParts name [] start = start.answer .proceed := rfl

/-- A context that is done ends the parts before the next one is started. -/
theorem playParts_cons_of_done {name : String} {p : Pipeline} {ps : List Pipeline} {start : Point}
    {e : Error} (h : start.error? = some e) :
    playParts name (p :: ps) start =
      (start.log (.contextDone p.action.name e)).answer (.propagate e) :=
  Action.playAll_cons_of_done h

/-- Else the next part is announced and played, and the others follow if it lets them. -/
theorem playParts_cons {name : String} {p : Pipeline} {ps : List Pipeline} {start : Point}
    (h : start.error? = none) :
    playParts name (p :: ps) start =
      match (p.play (some (.sequence name)) (start.log (.running p.action.name))).next? with
      | some next => playParts name ps next
      | none =>
        (p.play (some (.sequence name)) (start.log (.running p.action.name))).stoppedBy
          p.action.name :=
  Action.playAll_cons h

theorem play_sequence (name : String) (parts : List Pipeline) (span : Option Span)
    (start : Point) :
    (sequence name parts).play span start =
      playParts name parts (start.log (.sequenceOpened name start.ctx.span)) := rfl

/-- The action that a switch chooses is that of the part that it chooses. -/
theorem choice?_caseActions (s : Scene) (cases : List (Predicate × Pipeline))
    (default : Option Pipeline) :
    Case.choice? s (caseActions cases) (defaultAction default) =
      (choice? s cases default).map action := by
  induction cases with
  | nil => cases default <;> rfl
  | cons c cs ih =>
    obtain ⟨predicate, p⟩ := c
    simp only [choice?, Case.choice?, caseActions, caseAction, List.find?_cons] at ih ⊢
    cases (predicate.eval s).1 with
    | true => rfl
    | false => exact ih

/-- The point from which a switch runs the part it has chosen. -/
def choosing (name : String) (cases : List (Predicate × Pipeline)) (default : Option Pipeline)
    (start : Point) : Point :=
  start.choosing name (caseActions cases) (defaultAction default)

/-- A switch plays the part that it chooses from the point after its choice. -/
theorem play_switch (name : String) (cases : List (Predicate × Pipeline))
    (default : Option Pipeline) (span : Option Span) (start : Point) :
    (switch name cases default).play span start =
      match choice? start.scene cases default with
      | some p => p.play (some (.switch name)) (choosing name cases default start)
      | none => (choosing name cases default start).answer .proceed := by
  have haction : (switch name cases default).play span start =
      (Action.switch name (caseActions cases) (defaultAction default)).play span start := rfl
  rw [haction, Action.play_switch, choice?_caseActions]
  cases choice? start.scene cases default <;> rfl

end Pipeline

inductive Event where
  | visited (v : Visit)
  | contextDone (sequence : String) (error : Error)

namespace Pipeline

mutual

/-- What happens when the pipeline is run inside a span from a point. -/
def events : Pipeline → Option Span → Point → List Event
  | .leaf action, span, start => [.visited ⟨action, span, start⟩]
  | .sequence name parts, _, start =>
    partEvents name parts (start.log (.sequenceOpened name start.ctx.span))
  | .switch name cases default, _, start =>
    match _h : choice? start.scene cases default with
    | some p => events p (some (.switch name)) (choosing name cases default start)
    | none => []
termination_by p => sizeOf p
decreasing_by
  · simp only [sequence.sizeOf_spec]
    omega
  · exact sizeOf_lt_of_choice? _h

def partEvents (name : String) : List Pipeline → Point → List Event
  | [], _ => []
  | p :: ps, start =>
    match start.error? with
    | some e => [.contextDone name e]
    | none =>
      let entered := start.log (.running p.action.name)
      events p (some (.sequence name)) entered ++
        match (p.play (some (.sequence name)) entered).next? with
        | some next => partEvents name ps next
        | none => []
termination_by ps => sizeOf ps

end

/-- The events of a switch are those of the part that it chooses. -/
theorem events_switch (name : String) (cases : List (Predicate × Pipeline))
    (default : Option Pipeline) (span : Option Span) (start : Point) :
    events (switch name cases default) span start =
      match choice? start.scene cases default with
      | some p => events p (some (.switch name)) (choosing name cases default start)
      | none => [] := by
  rw [events]
  split <;> simp [*]

theorem events_sequence (name : String) (parts : List Pipeline) (span : Option Span)
    (start : Point) :
    events (sequence name parts) span start =
      partEvents name parts (start.log (.sequenceOpened name start.ctx.span)) := by
  rw [events]

theorem partEvents_nil (name : String) (start : Point) : partEvents name [] start = [] := by
  rw [partEvents]

theorem partEvents_cons_of_done {name : String} {p : Pipeline} {ps : List Pipeline} {start : Point}
    {e : Error} (h : start.error? = some e) :
    partEvents name (p :: ps) start = [.contextDone name e] := by
  rw [partEvents, h]

/-- The events of parts are those of the first one and then, if it lets them follow, of the
others. -/
theorem partEvents_cons {name : String} {p : Pipeline} {ps : List Pipeline} {start : Point}
    (h : start.error? = none) :
    partEvents name (p :: ps) start =
      events p (some (.sequence name)) (start.log (.running p.action.name)) ++
        match (p.play (some (.sequence name)) (start.log (.running p.action.name))).next? with
        | some next => partEvents name ps next
        | none => [] := by
  rw [partEvents, h]

end Pipeline

end ControlLoop
