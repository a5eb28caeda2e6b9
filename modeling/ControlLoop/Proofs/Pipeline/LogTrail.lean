import ControlLoop.Proofs.Pipeline.Calls
import ControlLoop.Proofs.Pipeline.Flattening

/-!
# The log trail of a pipeline

While a pipeline runs, composers make entries and leaves run, which may change the log themselves.
What a composer writes is told around the calls that it makes: entries before the first of them and
after the last, and one before each element of a sequence. An entry of a sequence after its last
call is its stop, and there is one exactly if the sequence has come to a signal other than
`proceed`. So the trail of a pipeline that has been stopped ends with a stop of every sequence that
was still open, from the inside out.
-/

namespace ControlLoop

namespace LogLine

/-- The lines with which a sequence tells that it has stopped. -/
def isStop : LogLine → Bool
  | .event .warning "Context done before action, stopping" _ => true
  | .event .debug "Action stopped the sequence" _ => true
  | _ => false

def isRunning : LogLine → Bool
  | .event .debug "Running action" _ => true
  | _ => false

end LogLine

namespace Standing

/-- The world in which the run stands. -/
def world {α : Type} : Standing α → World
  | .finished _ _ w _ => w
  | .waiting _ w _ => w

/-- The run has answered with a signal other than `proceed`. -/
def isStopped : Standing Reply → Bool
  | .finished reply _ _ _ => reply.signal.isTerminal
  | .waiting _ _ _ => false

/-- What a sequence logs when a part of the given name stands like this and does not proceed. -/
def stop (name : String) : Standing Reply → List LogEntry
  | .finished reply _ _ _ => [.stopped name reply.signal]
  | .waiting _ _ _ => []

variable {st : Standing Reply} {q : Point}

theorem world_of_next? (h : st.next? = some q) : st.world = q.world := by
  rw [eq_answer_of_next? h]
  rfl

/-- All that stopping a sequence logs is the entry that says so. -/
theorem log_stoppedBy (name : String) (st : Standing Reply) :
    (st.stoppedBy name).world.log = st.world.log ++ st.stop name := by
  cases st with
  | finished reply m w rest => rfl
  | waiting m w u => exact (List.append_nil w.log).symm

/-- A part that ends the sequence leaves one entry if it stopped it, and none else. -/
theorem length_stop (h : st.next? = none) (name : String) :
    (st.stop name).length = if (st.stoppedBy name).isStopped then 1 else 0 := by
  cases st with
  | finished reply m w rest =>
    have hterminal : reply.signal.isTerminal := by
      rw [Signal.isTerminal_iff]
      exact next?_finished_eq_none_iff.1 h
    exact (if_pos hterminal).symm
  | waiting m w u => rfl

end Standing

namespace Pipeline.Call

/-! ## What a call writes -/

/-- A piece of a trail: an entry, or a run in the course of which anything may happen to the log. -/
inductive Piece where
  | entry (e : LogEntry)
  | run (c : Call)

def Piece.isRunning : Piece → Bool
  | .entry e => e.line.isRunning
  | .run _ => false

/-- The pieces lead from one log to another. Entries are made at its end, and each run finds the log
as the piece before it left it. -/
inductive Writes : List LogEntry → List Piece → List LogEntry → Prop
  | nil (log : List LogEntry) : Writes log [] log
  | entry {log after : List LogEntry} {pieces : List Piece} (e : LogEntry)
      (rest : Writes (log ++ [e]) pieces after) : Writes log (.entry e :: pieces) after
  | run {after : List LogEntry} {pieces : List Piece} (c : Call)
      (rest : Writes c.standing.world.log pieces after) :
      Writes c.start.world.log (.run c :: pieces) after

/-- Pieces written one after the other are written as one list. -/
theorem Writes.append {log middle after : List LogEntry} {pieces more : List Piece}
    (h : Writes log pieces middle) (hmore : Writes middle more after) :
    Writes log (pieces ++ more) after := by
  induction h with
  | nil log => exact hmore
  | entry e _ ih => exact .entry e (ih hmore)
  | run c _ ih => exact .run c (ih hmore)

theorem writes_entries (log entries : List LogEntry) :
    Writes log (entries.map .entry) (log ++ entries) := by
  induction entries generalizing log with
  | nil =>
    rw [List.append_nil]
    exact .nil log
  | cons e entries ih =>
    rw [List.append_cons]
    exact .entry e (ih (log ++ [e]))

/-- The entries with which a sequence stops that runs parts from a point. -/
def stop (name : String) : List Pipeline → Point → List LogEntry
  | [], _ => []
  | p :: ps, start =>
    match start.error? with
    | some e => [.contextDone p.action.name e]
    | none =>
      match (element name p start).standing.next? with
      | some next => stop name ps next
      | none => (element name p start).standing.stop p.action.name

def isLeaf (c : Call) : Bool :=
  match c.part with
  | .leaf _ => true
  | _ => false

/-- What a composer logs before its first call. -/
def opening (c : Call) : List LogEntry :=
  match c.part with
  | .leaf _ => []
  | .sequence name _ => [.sequenceOpened name c.start.ctx.span]
  | .switch name cases _ =>
    [.switchOpened name c.start.ctx.span,
      match (Case.select c.start.scene 0 (caseActions cases)).1 with
      | some (index, action) => .caseMatched index action.name
      | none => .noCaseMatched]

/-- What a composer logs before one of its calls. -/
def heading (c d : Call) : List LogEntry :=
  match c.part with
  | .sequence _ _ => [.running d.name]
  | _ => []

/-- What a composer logs after its last call. -/
def closing (c : Call) : List LogEntry :=
  match c.part with
  | .sequence name parts => stop name parts (c.start.log (.sequenceOpened name c.start.ctx.span))
  | _ => []

/-- The trail of a composer around its calls, of which each has a trail of its own. -/
def around (c : Call) (trails : Call → List Piece) : List Piece :=
  c.opening.map .entry ++ (c.inner.flatMap fun d ↦ (c.heading d).map .entry ++ trails d) ++
    c.closing.map .entry

/-- The trail of a call: the entries of composers between the runs of leaves. -/
def trace (c : Call) : List Piece :=
  if c.isLeaf then [.run c]
  else c.opening.map .entry ++
    (c.inner.attach.flatMap fun d ↦ (c.heading d.1).map .entry ++ trace d.1) ++
    c.closing.map .entry
termination_by sizeOf c.part
decreasing_by exact sizeOf_part_lt_of_mem_inner d.2

theorem trace_of_isLeaf {c : Call} (h : c.isLeaf = true) : c.trace = [.run c] := by
  rw [trace, if_pos h]

/-- The trace of a composer is made of its own entries and the traces of the calls inside. -/
theorem trace_eq_around {c : Call} (h : c.isLeaf = false) : c.trace = c.around trace := by
  rw [trace, h, around]
  simp

variable {name : String} {p : Pipeline} {ps parts : List Pipeline} {start q : Point} {e : Error}
  {trails : Call → List Piece} {c : Call}

theorem stop_cons_of_done (h : start.error? = some e) :
    stop name (p :: ps) start = [.contextDone p.action.name e] := by
  rw [stop, h]

/-- The entry that ends a sequence is that of its first part which does not go on. -/
theorem stop_cons_of_next? (h : start.error? = none)
    (hnext : (element name p start).standing.next? = some q) :
    stop name (p :: ps) start = stop name ps q := by
  rw [stop, h]
  dsimp only
  rw [hnext]

theorem stop_cons_of_stopped (h : start.error? = none)
    (hnext : (element name p start).standing.next? = none) :
    stop name (p :: ps) start = (element name p start).standing.stop p.action.name := by
  rw [stop, h]
  dsimp only
  rw [hnext]

/-- Parts that a sequence runs in order lead from the log at their start to the log at their end. -/
theorem writes_elements
    (h : ∀ d ∈ elements name parts start,
      Writes d.start.world.log (trails d) d.standing.world.log) :
    Writes start.world.log
      ((elements name parts start).flatMap (fun d ↦ .entry (.running d.name) :: trails d) ++
        (stop name parts start).map .entry)
      (playParts name parts start).world.log := by
  induction parts, start using partsInduction name with
  | nil start => exact .nil _
  | done p ps start e hdone =>
    rw [elements_cons_of_done hdone, stop_cons_of_done hdone, playParts_cons_of_done hdone]
    exact .entry _ (.nil _)
  | stopped p ps start hdone hfirst =>
    have hrun := h _ (mem_elements_cons_iff.2 ⟨hdone, .inl rfl⟩)
    rw [elements_cons_of_stopped hdone hfirst, stop_cons_of_stopped hdone hfirst,
      playParts_cons_of_stopped hdone hfirst, Standing.log_stoppedBy, List.flatMap_cons,
      List.flatMap_nil, List.append_nil, List.cons_append]
    exact .entry _ (hrun.append (writes_entries _ _))
  | next p ps start next hdone hfirst ih =>
    have hrun := h _ (mem_elements_cons_iff.2 ⟨hdone, .inl rfl⟩)
    have hrest := ih fun d hd ↦ h d (mem_elements_cons_iff.2 ⟨hdone, .inr ⟨next, hfirst, hd⟩⟩)
    rw [Standing.world_of_next? hfirst] at hrun
    rw [elements_cons_of_next? hdone hfirst, stop_cons_of_next? hdone hfirst,
      playParts_cons_of_next? hdone hfirst, List.flatMap_cons, List.cons_append, List.cons_append,
      List.append_assoc]
    exact .entry _ (hrun.append hrest)

/-- A composer leads from the log at its start to the log at its end if its calls do. -/
theorem writes_around (hcomposer : c.isLeaf = false)
    (h : ∀ d ∈ c.inner, Writes d.start.world.log (trails d) d.standing.world.log) :
    Writes c.start.world.log (c.around trails) c.standing.world.log := by
  obtain ⟨part, span, start⟩ := c
  cases part with
  | leaf a => exact nomatch hcomposer
  | sequence name parts => exact .entry _ (writes_elements h)
  | switch name cases default =>
    let opened := opening ⟨.switch name cases default, span, start⟩
    have hopening : (choosing name cases default start).world.log = start.world.log ++ opened := by
      rw [choosing_eq]
      exact List.append_assoc _ _ _
    have hopened := writes_entries start.world.log opened
    rw [← hopening] at hopened
    unfold around standing
    rw [play_switch]
    unfold inner at h ⊢
    dsimp only at h ⊢
    cases hchoice : choice? start.scene cases default with
    | none => simpa [closing, Point.answer, Standing.world] using hopened
    | some p =>
      rw [hchoice] at h
      have hrun := h _ (List.mem_singleton_self _)
      simpa [closing, heading, standing] using hopened.append hrun

/-- Every call writes its trace to the log, entry by entry, and nothing else. -/
theorem writes_trace (c : Call) : Writes c.start.world.log c.trace c.standing.world.log := by
  induction c using induction with
  | h c ih =>
    cases hleaf : c.isLeaf with
    | true =>
      rw [trace_of_isLeaf hleaf]
      exact .run c (.nil _)
    | false =>
      rw [trace_eq_around hleaf]
      exact writes_around hleaf ih

/-! ## Stops -/

/-- A sequence writes one closing entry if it stops, and none if it runs to its end. -/
theorem length_stop : (stop name parts start).length =
    if (playParts name parts start).isStopped then 1 else 0 := by
  induction parts, start using partsInduction name with
  | nil start => rfl
  | done p ps start e hdone =>
    rw [stop_cons_of_done hdone, playParts_cons_of_done hdone]
    rfl
  | stopped p ps start hdone hfirst =>
    rw [stop_cons_of_stopped hdone hfirst, playParts_cons_of_stopped hdone hfirst]
    exact Standing.length_stop hfirst p.action.name
  | next p ps start next hdone hfirst ih =>
    rw [stop_cons_of_next? hdone hfirst, playParts_cons_of_next? hdone hfirst]
    exact ih

/-- A sequence stops because the context is done or because a part says so. -/
theorem eq_of_mem_stop {entry : LogEntry} (h : entry ∈ stop name parts start) :
    (∃ action e, entry = .contextDone action e) ∨ ∃ action s, entry = .stopped action s := by
  induction parts, start using partsInduction name with
  | nil start => exact nomatch h
  | done p ps start e hdone =>
    rw [stop_cons_of_done hdone] at h
    exact .inl ⟨_, _, List.mem_singleton.1 h⟩
  | stopped p ps start hdone hfirst =>
    rw [stop_cons_of_stopped hdone hfirst] at h
    cases hstanding : (element name p start).standing with
    | waiting m w u =>
      rw [hstanding] at h
      exact nomatch h
    | finished reply m w rest =>
      rw [hstanding] at h
      exact .inr ⟨_, _, List.mem_singleton.1 h⟩
  | next p ps start next hdone hfirst ih =>
    rw [stop_cons_of_next? hdone hfirst] at h
    exact ih h

theorem isStop_of_mem_stop {entry : LogEntry} (h : entry ∈ stop name parts start) :
    entry.line.isStop := by
  obtain ⟨_, _, rfl⟩ | ⟨_, _, rfl⟩ := eq_of_mem_stop h
  · rfl
  · rfl

/-! ## Starts -/

/-- The elements that a call starts if it is one of a sequence. -/
def started (c : Call) : List Call :=
  match c.part with
  | .sequence _ _ => c.inner
  | _ => []

theorem countP_opening (c : Call) : (c.opening.map Piece.entry).countP Piece.isRunning = 0 := by
  obtain ⟨part, span, start⟩ := c
  rw [List.countP_eq_zero]
  intro piece hpiece
  obtain ⟨entry, hentry, rfl⟩ := List.mem_map.1 hpiece
  cases part with
  | leaf a => exact nomatch hentry
  | sequence name parts =>
    rw [List.mem_singleton.1 hentry]
    exact Bool.false_ne_true
  | switch name cases default =>
    rcases List.mem_cons.1 hentry with rfl | hmatched
    · exact Bool.false_ne_true
    · rw [List.mem_singleton.1 hmatched]
      cases (Case.select start.scene 0 (caseActions cases)).1 <;> exact Bool.false_ne_true

theorem countP_closing (c : Call) : (c.closing.map Piece.entry).countP Piece.isRunning = 0 := by
  obtain ⟨part, span, start⟩ := c
  rw [List.countP_eq_zero]
  intro piece hpiece
  obtain ⟨entry, hentry, rfl⟩ := List.mem_map.1 hpiece
  cases part with
  | leaf a => exact nomatch hentry
  | switch name cases default => exact nomatch hentry
  | sequence name parts =>
    obtain ⟨_, _, rfl⟩ | ⟨_, _, rfl⟩ := eq_of_mem_stop hentry
    · exact Bool.false_ne_true
    · exact Bool.false_ne_true

theorem countP_flatMap_running (cs : List Call) :
    (cs.flatMap fun d ↦ .entry (.running d.name) :: trails d).countP Piece.isRunning =
      cs.length + (cs.flatMap trails).countP Piece.isRunning := by
  induction cs with
  | nil => rfl
  | cons d cs ih =>
    have hrunning : Piece.isRunning (.entry (.running d.name)) = true := rfl
    rw [List.flatMap_cons, List.flatMap_cons, List.cons_append, List.countP_cons_of_pos hrunning,
      List.countP_append, List.countP_append, ih, List.length_cons]
    omega

/-- A composer announces the calls that it starts, and the calls inside announce theirs. -/
theorem countP_around (c : Call) :
    (c.around trails).countP Piece.isRunning =
      c.started.length + (c.inner.flatMap trails).countP Piece.isRunning := by
  have hinner : (c.inner.flatMap fun d ↦ (c.heading d).map .entry ++ trails d).countP
      Piece.isRunning = c.started.length + (c.inner.flatMap trails).countP Piece.isRunning := by
    obtain ⟨part, span, start⟩ := c
    cases part with
    | leaf a => rfl
    | switch name cases default => exact (Nat.zero_add _).symm
    | sequence name parts => exact countP_flatMap_running _
  rw [around, List.countP_append, List.countP_append, countP_opening, countP_closing, hinner]
  omega

theorem countP_flatMap_eq_length (cs : List Call)
    (h : ∀ d ∈ cs, (trails d).countP Piece.isRunning = (d.calls.flatMap started).length) :
    (cs.flatMap trails).countP Piece.isRunning = ((cs.flatMap calls).flatMap started).length := by
  induction cs with
  | nil => rfl
  | cons d cs ih =>
    obtain ⟨hd, hcs⟩ := List.forall_mem_cons.1 h
    rw [List.flatMap_cons, List.flatMap_cons, List.flatMap_append, List.countP_append,
      List.length_append, hd, ih hcs]

/-- As often as a call says that it runs an action, it starts an element of a sequence. -/
theorem countP_trace (c : Call) :
    c.trace.countP Piece.isRunning = (c.calls.flatMap started).length := by
  induction c using induction with
  | h c ih =>
    rw [calls_eq, List.flatMap_cons, List.length_append]
    cases hleaf : c.isLeaf with
    | true =>
      obtain ⟨part, span, start⟩ := c
      cases part with
      | leaf a =>
        rw [trace_of_isLeaf hleaf]
        rfl
      | sequence name parts => exact nomatch hleaf
      | switch name cases default => exact nomatch hleaf
    | false =>
      rw [trace_eq_around hleaf, countP_around, countP_flatMap_eq_length c.inner ih]

/-- The runs of a trace are the leaves among the calls. -/
theorem isLeaf_of_run_mem_trace {d : Call} (h : .run d ∈ c.trace) : d.isLeaf ∧ d ∈ c.calls := by
  induction c using induction with
  | h c ih =>
    cases hleaf : c.isLeaf with
    | true =>
      rw [trace_of_isLeaf hleaf, List.mem_singleton] at h
      cases h
      rw [calls_eq]
      exact ⟨hleaf, List.mem_cons_self⟩
    | false =>
      simp only [trace_eq_around hleaf, around, List.mem_append, List.mem_map, List.mem_flatMap,
        reduceCtorEq, and_false, exists_false, false_or, or_false] at h
      obtain ⟨x, hx, hd⟩ := h
      obtain ⟨hdleaf, hmem⟩ := ih x hx hd
      refine ⟨hdleaf, ?_⟩
      rw [calls_eq]
      exact List.mem_cons_of_mem c (List.mem_flatMap.2 ⟨x, hx, hmem⟩)

/-- The trail that a call leaves in the log, whatever its leaves do to the log themselves. -/
structure LogTrail (c : Call) : Prop where
  /-- Between the runs of leaves the log has the entries of composers added to it, and nothing
  else. -/
  writes : Writes c.start.world.log c.trace c.standing.world.log
  leaves : ∀ d, .run d ∈ c.trace → d.isLeaf ∧ d ∈ c.calls
  /-- There is an entry for every element that a sequence starts. -/
  running : c.trace.countP Piece.isRunning = (c.calls.flatMap started).length
  /-- A sequence tells of each element before it runs, and in the end that it has stopped, once and
  only if it has. -/
  sequences : ∀ d ∈ c.calls, ∀ name parts, d.part = .sequence name parts →
    ∃ stop : List LogEntry,
      Writes d.start.world.log
        (.entry (.sequenceOpened name d.start.ctx.span) ::
          d.inner.flatMap (fun x ↦ [.entry (.running x.name), .run x]) ++ stop.map .entry)
        d.standing.world.log ∧
      (∀ e ∈ stop, e.line.isStop) ∧ stop.length = if d.standing.isStopped then 1 else 0
  within : ∀ d ∈ c.calls, ∃ names, Within c names d
  /-- What is logged after a call inside has stopped are the stops of the sequences around it. -/
  stopped : ∀ names d reply m w rest, Within c names d → d.standing = .finished reply m w rest →
    reply.signal ≠ .proceed →
    c.standing =
      .finished reply m (w.loggedAll (names.map (LogEntry.stopped · reply.signal))) rest
  /-- What is logged after a sequence inside has found the context done are its stop and those of
  the sequences around it. -/
  contextDone : ∀ names d name parts q a e, Within c names d → d.part = .sequence name parts →
    left (d.start.log (.sequenceOpened name d.start.ctx.span)) d.inner = some q →
    parts[d.inner.length]? = some a → q.error? = some e →
    c.standing =
      .finished ⟨.propagate e, q.ctx, q.state⟩ q.moment
        (q.world.loggedAll
          (.contextDone a.action.name e :: names.map (LogEntry.stopped · (.propagate e)))) q.coming

/-- A call writes an opening entry, a running entry before each part, what the parts write, and the
entry of what stopped it. After an entry that stops, nothing but the entries of the sequences around
follows, and there are as many running entries as parts that were started. -/
theorem logTrail (c : Call) : LogTrail c where
  writes := writes_trace c
  leaves _ := isLeaf_of_run_mem_trace
  running := countP_trace c
  sequences d _ name parts hd := by
    obtain ⟨part, span, start⟩ := d
    obtain rfl : part = .sequence name parts := hd
    let d : Call := ⟨.sequence name parts, span, start⟩
    have hruns : Writes d.start.world.log (d.around ([.run ·])) d.standing.world.log :=
      writes_around rfl fun x _ ↦ .run x (.nil _)
    exact ⟨stop name parts (start.log (.sequenceOpened name start.ctx.span)), hruns,
      fun _ ↦ isStop_of_mem_stop, length_stop⟩
  within _ := exists_within_of_mem_calls c
  stopped _ _ _ _ _ _ hwithin hstanding hsignal := hwithin.standing_eq hstanding hsignal
  contextDone names d name parts q a e hwithin hd hleft hpart herror := by
    obtain ⟨part, span, start⟩ := d
    obtain rfl : part = .sequence name parts := hd
    have hstanding : (Call.mk (.sequence name parts) span start).standing =
        (q.log (.contextDone a.action.name e)).answer (.propagate e) :=
      playParts_eq_of_left hleft hpart herror
    rw [hwithin.standing_eq hstanding (by simp)]
    simp [World.loggedAll, Point.log, World.logged]

/-- Asks for a requeue in a sequence in a switch in a sequence. -/
def gated : Pipeline :=
  sequence "outer" [leaf .proceed, switch "gate" []
    (some (sequence "inner" [leaf (.requeue none), leaf .proceed])), leaf .proceed]

/-- Finds the context done in an inner sequence. -/
def late : Pipeline := sequence "outer" [sequence "inner" [leaf expiring, leaf .proceed]]

theorem logTrail_gated_and_late :
    let start : Point :=
      ⟨.background none, { object := ⟨"Lease", { name := "a" }, ∅, ""⟩ }, ⟨⟨0⟩, .read 0⟩, {}, []⟩
    (Call.mk gated none start).standing.world.log =
        [.sequenceOpened "outer" none, .running "continue", .running "gate",
          .switchOpened "gate" none, .noCaseMatched, .sequenceOpened "inner" none,
          .running "stopWithRequeue", .stopped "stopWithRequeue" (.requeue none),
          .stopped "gate" (.requeue none)] ∧
      (Call.mk late none start).standing.world.log =
        [.sequenceOpened "outer" none, .running "inner", .sequenceOpened "inner" none,
          .running "expire", .contextDone "continue" .deadlineExceeded,
          .stopped "inner" (.propagate .deadlineExceeded)] := by
  intro start
  constructor
  · let outer : Call := ⟨gated, none, start⟩
    let gate : Call := outer.inner.get ⟨1, by decide⟩
    let inner : Call := gate.inner.get ⟨0, by decide⟩
    let d : Call := inner.inner.get ⟨0, by decide⟩
    have hd : d ∈ inner.inner := List.get_mem _ _
    have hinner : inner ∈ gate.inner := List.get_mem _ _
    have hgate : gate ∈ outer.inner := List.get_mem _ _
    have hstopped : Within inner ["stopWithRequeue"] d := .element hd (.self d)
    have hpassed : Within gate ["stopWithRequeue"] d := .chosen hinner hstopped
    have houter : Within outer ["stopWithRequeue", "gate"] d := .element hgate hpassed
    exact congrArg (·.world.log) ((logTrail outer).stopped _ d _ _ _ _ houter rfl (by decide))
  · let outer : Call := ⟨late, none, start⟩
    let inner : Call := outer.inner.get ⟨0, by decide⟩
    have hinner : inner ∈ outer.inner := List.get_mem _ _
    have houter : Within outer ["inner"] inner := .element hinner (.self inner)
    have htrail := (logTrail outer).contextDone _ inner _ _ _ _ _ houter rfl rfl rfl rfl
    exact congrArg (·.world.log) htrail

end Pipeline.Call

end ControlLoop
