import ControlLoop.Proofs.Pipeline.Events

/-!
# Calls

A call is one run of a pipeline from a point. A sequence calls its parts one after the other until
one of them does not proceed, and a switch calls the part that it has chosen; a call inside another
one is reached through such calls. What ends a call inside ends all calls around it: the reply stays
the same, and each sequence on the way out says which of its parts has stopped it.
-/

namespace ControlLoop

/-- The world after several entries have been made. -/
def World.loggedAll (w : World) (entries : List LogEntry) : World :=
  { w with log := w.log ++ entries }

@[simp] theorem World.loggedAll_nil (w : World) : w.loggedAll [] = w := by
  simp [loggedAll]

/-- An entry logged after others is the last of them. -/
theorem World.logged_loggedAll (w : World) (entries : List LogEntry) (e : LogEntry) :
    (w.loggedAll entries).logged e = w.loggedAll (entries ++ [e]) := by
  simp [loggedAll, logged]

namespace Pipeline

/-- One run of a pipeline, inside a span and from a point. -/
structure Call where
  part : Pipeline
  span : Option Span
  start : Point

namespace Call

def name (c : Call) : String := c.part.action.name

def standing (c : Call) : Standing Reply := c.part.play c.span c.start

/-- The call with which a sequence starts a part. -/
def element (name : String) (p : Pipeline) (start : Point) : Call :=
  ⟨p, some (.sequence name), start.log (.running p.action.name)⟩

/-- The calls of a sequence that runs parts from a point. -/
def elements (name : String) : List Pipeline → Point → List Call
  | [], _ => []
  | p :: ps, start =>
    match start.error? with
    | some _ => []
    | none =>
      element name p start ::
        match (element name p start).standing.next? with
        | some next => elements name ps next
        | none => []

/-- The calls that a composer makes itself. -/
def inner (c : Call) : List Call :=
  match c.part with
  | .leaf _ => []
  | .sequence name parts =>
    elements name parts (c.start.log (.sequenceOpened name c.start.ctx.span))
  | .switch name cases default =>
    match choice? c.start.scene cases default with
    | some p => [⟨p, some (.switch name), choosing name cases default c.start⟩]
    | none => []

/-- The point that calls made one after the other from a point leave, if all of them proceed. -/
def left (start : Point) : List Call → Option Point
  | [] => some start
  | c :: cs => c.standing.next?.bind fun next ↦ left next cs

/-- One call is inside another. On the way out lie sequences, which have been called upon to run
parts of the given names, innermost first, and switches. -/
inductive Within : Call → List String → Call → Prop
  | self (c : Call) : Within c [] c
  | element {name : String} {parts : List Pipeline} {span : Option Span} {start : Point}
      {d e : Call} {names : List String} (mem : d ∈ inner ⟨.sequence name parts, span, start⟩)
      (within : Within d names e) :
      Within ⟨.sequence name parts, span, start⟩ (names ++ [d.name]) e
  | chosen {name : String} {cases : List (Predicate × Pipeline)} {default : Option Pipeline}
      {span : Option Span} {start : Point} {d e : Call} {names : List String}
      (mem : d ∈ inner ⟨.switch name cases default, span, start⟩) (within : Within d names e) :
      Within ⟨.switch name cases default, span, start⟩ names e

variable {name : String} {p : Pipeline} {ps parts : List Pipeline} {start q : Point} {e : Error}
  {c d : Call}

/-- A switch calls the part that it has chosen and nothing else. -/
theorem mem_inner_switch_iff {cases : List (Predicate × Pipeline)} {default : Option Pipeline}
    {span : Option Span} :
    d ∈ inner ⟨.switch name cases default, span, start⟩ ↔
      ∃ p, choice? start.scene cases default = some p ∧
        d = ⟨p, some (.switch name), choosing name cases default start⟩ := by
  unfold inner
  dsimp only
  cases choice? start.scene cases default <;> simp

theorem elements_cons_of_done (h : start.error? = some e) : elements name (p :: ps) start = [] := by
  rw [elements, h]

/-- A part that proceeds is called, and then the others from where it ends. -/
theorem elements_cons_of_next? (h : start.error? = none)
    (hnext : (element name p start).standing.next? = some q) :
    elements name (p :: ps) start = element name p start :: elements name ps q := by
  rw [elements, h]
  dsimp only
  rw [hnext]

/-- A part that does not proceed is the last one called. -/
theorem elements_cons_of_stopped (h : start.error? = none)
    (hnext : (element name p start).standing.next? = none) :
    elements name (p :: ps) start = [element name p start] := by
  rw [elements, h]
  dsimp only
  rw [hnext]

theorem playParts_cons_of_next? (h : start.error? = none)
    (hnext : (element name p start).standing.next? = some q) :
    playParts name (p :: ps) start = playParts name ps q := by
  have hplay : (p.play (some (.sequence name)) (start.log (.running p.action.name))).next? =
      some q := hnext
  rw [playParts_cons h, hplay]

theorem playParts_cons_of_stopped (h : start.error? = none)
    (hnext : (element name p start).standing.next? = none) :
    playParts name (p :: ps) start = (element name p start).standing.stoppedBy p.action.name := by
  have hplay : (p.play (some (.sequence name)) (start.log (.running p.action.name))).next? =
      none := hnext
  rw [playParts_cons h, hplay]
  rfl

/-- Parts that a sequence runs from a point are over, or stop at the first of them because the
context is done or because it does not proceed, or go on with the others from where it ends. -/
@[elab_as_elim]
theorem partsInduction (name : String) {motive : List Pipeline → Point → Prop}
    (nil : ∀ start, motive [] start)
    (done : ∀ p ps start e, start.error? = some e → motive (p :: ps) start)
    (stopped : ∀ p ps start, start.error? = none →
      (element name p start).standing.next? = none → motive (p :: ps) start)
    (next : ∀ p ps start next, start.error? = none →
      (element name p start).standing.next? = some next → motive ps next → motive (p :: ps) start)
    (parts : List Pipeline) (start : Point) : motive parts start := by
  induction parts generalizing start with
  | nil => exact nil start
  | cons p ps ih =>
    cases hdone : start.error? with
    | some e => exact done p ps start e hdone
    | none =>
      cases hnext : (element name p start).standing.next? with
      | none => exact stopped p ps start hdone hnext
      | some q => exact next p ps start q hdone hnext (ih q)

/-- Of the calls of a sequence, one is its first part's or comes after that part has proceeded. -/
theorem mem_elements_cons_iff :
    d ∈ elements name (p :: ps) start ↔
      start.error? = none ∧ (d = element name p start ∨
        ∃ next, (element name p start).standing.next? = some next ∧ d ∈ elements name ps next) := by
  cases hdone : start.error? with
  | some e => simp [elements_cons_of_done hdone]
  | none =>
    cases hnext : (element name p start).standing.next? with
    | none => simp [elements_cons_of_stopped hdone hnext]
    | some q => simp [elements_cons_of_next? hdone hnext]

/-! ## All calls -/

theorem part_mem_of_mem_elements (h : d ∈ elements name parts start) : d.part ∈ parts := by
  induction parts generalizing start with
  | nil => exact nomatch h
  | cons p ps ih =>
    obtain ⟨-, rfl | ⟨next, -, hrest⟩⟩ := mem_elements_cons_iff.1 h
    · exact List.mem_cons_self
    · exact List.mem_cons_of_mem p (ih hrest)

/-- What a composer calls is smaller than itself. -/
theorem sizeOf_part_lt_of_mem_inner (h : d ∈ c.inner) : sizeOf d.part < sizeOf c.part := by
  obtain ⟨part, span, start⟩ := c
  cases part with
  | leaf a => exact nomatch h
  | sequence name parts =>
    have hmem : d.part ∈ parts := part_mem_of_mem_elements h
    have hsize := List.sizeOf_lt_of_mem hmem
    simp only [sequence.sizeOf_spec]
    omega
  | switch name cases default =>
    obtain ⟨p, hchoice, rfl⟩ := mem_inner_switch_iff.1 h
    exact sizeOf_lt_of_choice? hchoice

/-- A property of calls that each has if all calls inside it do. -/
theorem induction {motive : Call → Prop} (h : ∀ c, (∀ d ∈ c.inner, motive d) → motive c)
    (c : Call) : motive c :=
  h c fun d _ ↦ induction h d
termination_by sizeOf c.part
decreasing_by exact sizeOf_part_lt_of_mem_inner ‹_›

/-- A call and the calls inside it at any depth. -/
def calls (c : Call) : List Call := c :: c.inner.attach.flatMap fun d ↦ calls d.1
termination_by sizeOf c.part
decreasing_by exact sizeOf_part_lt_of_mem_inner d.2

/-- The calls under a call are itself and those under the calls it makes. -/
theorem calls_eq (c : Call) : c.calls = c :: c.inner.flatMap calls := by
  rw [calls]
  simp

/-- Every call under a call is inside it, along some sequences. -/
theorem exists_within_of_mem_calls (c : Call) (h : d ∈ c.calls) : ∃ names, Within c names d := by
  induction c using induction with
  | h c ih =>
    rw [calls_eq] at h
    rcases List.mem_cons.1 h with rfl | hinner
    · exact ⟨[], .self d⟩
    · obtain ⟨x, hx, hd⟩ := List.mem_flatMap.1 hinner
      obtain ⟨names, hwithin⟩ := ih x hx hd
      obtain ⟨part, span, start⟩ := c
      cases part with
      | leaf a => exact nomatch hx
      | sequence name parts => exact ⟨names ++ [x.name], .element hx hwithin⟩
      | switch name cases default => exact ⟨names, .chosen hx hwithin⟩

/-! ## How a call inside ends those around it -/

/-- A sequence is stopped by the part that it has called and that does not proceed. -/
theorem playParts_eq_of_mem_elements (h : d ∈ elements name parts start)
    (hnext : d.standing.next? = none) :
    playParts name parts start = d.standing.stoppedBy d.name := by
  induction parts generalizing start with
  | nil => exact nomatch h
  | cons p ps ih =>
    obtain ⟨hdone, rfl | ⟨next, hfirst, hrest⟩⟩ := mem_elements_cons_iff.1 h
    · exact playParts_cons_of_stopped hdone hnext
    · rw [playParts_cons_of_next? hdone hfirst]
      exact ih hrest

/-- A sequence that comes to a part with a context that is done stops there. -/
theorem playParts_eq_of_left {a : Pipeline}
    (hleft : left start (elements name parts start) = some q)
    (hpart : parts[(elements name parts start).length]? = some a) (herror : q.error? = some e) :
    playParts name parts start =
      (q.log (.contextDone a.action.name e)).answer (.propagate e) := by
  induction parts, start using partsInduction name with
  | nil => exact nomatch hpart
  | done p ps start e' hdone =>
    rw [elements_cons_of_done hdone] at hleft hpart
    obtain rfl := Option.some.inj hleft
    obtain rfl := Option.some.inj hpart
    obtain rfl := Option.some.inj (hdone.symm.trans herror)
    exact playParts_cons_of_done hdone
  | stopped p ps start hdone hfirst =>
    rw [elements_cons_of_stopped hdone hfirst, left, hfirst] at hleft
    exact nomatch hleft
  | next p ps start next hdone hfirst ih =>
    rw [elements_cons_of_next? hdone hfirst] at hleft hpart
    rw [left, hfirst] at hleft
    rw [playParts_cons_of_next? hdone hfirst]
    exact ih hleft hpart

/-- What ends a call inside a call ends that call: with the same reply, at the same time and in the
same world, but for one entry of each sequence on the way out. -/
theorem Within.standing_eq {names : List String} (h : Within c names d) {reply : Reply} {m : Moment}
    {w : World} {rest : Schedule} (hd : d.standing = .finished reply m w rest)
    (hsignal : reply.signal ≠ .proceed) :
    c.standing =
      .finished reply m (w.loggedAll (names.map (LogEntry.stopped · reply.signal))) rest := by
  induction h with
  | self c =>
    rw [List.map_nil, World.loggedAll_nil]
    exact hd
  | @element name parts span start x d names hx _ ih =>
    have hstanding := ih hd
    have hnext : x.standing.next? = none := by
      rw [hstanding]
      exact Standing.next?_finished_eq_none_iff.2 hsignal
    have hplay : (Call.mk (.sequence name parts) span start).standing =
        x.standing.stoppedBy x.name := playParts_eq_of_mem_elements hx hnext
    rw [hplay, hstanding, Standing.stoppedBy, World.logged_loggedAll, List.map_append]
    rfl
  | @chosen name cases default span start x d names hx _ ih =>
    have hplay : (Call.mk (.switch name cases default) span start).standing = x.standing := by
      obtain ⟨p, hchoice, rfl⟩ := mem_inner_switch_iff.1 hx
      unfold standing
      rw [play_switch, hchoice]
    rw [hplay]
    exact ih hd

end Call

end Pipeline

end ControlLoop
