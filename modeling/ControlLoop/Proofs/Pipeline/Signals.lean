import ControlLoop.Proofs.Pipeline.Events

/-!
# The signal of a pipeline

Composers neither swallow a signal nor turn it into another. The leaves that a pipeline starts
follow one another without a gap, each on the context and state that the one before it left, and all
but the last proceed. If the last one does not, its reply is the reply of the whole pipeline, at any
depth; else the pipeline proceeds, or one of its sequences has found the context done, after which
nothing starts, and the pipeline propagates the reason.
-/

namespace ControlLoop.Pipeline

/-- The events are leaves that all proceeded, the first started at `p`, each other one where the one
before it ended, and the last ended at `q`. Trails and logs are left aside. -/
inductive Leads : Point → List Event → Point → Prop
  | here {p q : Point} (same : p.quiet = q.quiet) : Leads p [] q
  | visit {p next q : Point} {v : Visit} {es : List Event} (start : v.start.quiet = p.quiet)
      (proceeds : v.next? = some next) (rest : Leads next es q) : Leads p (.visited v :: es) q

/-- How the events of a pipeline that is run from a point decide where it stands. -/
inductive Verdict (p : Pipeline) (start : Point) : List Event → Standing Reply → Prop
  /-- Every leaf that was started proceeded, and so does the pipeline. -/
  | proceeds {es : List Event} {q : Point} (leads : Leads start es q) :
      Verdict p start es (q.answer .proceed)
  /-- The last leaf alone did not proceed, and its reply is that of the pipeline. -/
  | stops {es : List Event} {q : Point} {v : Visit} {reply : Reply} {m : Moment} {w w' : World}
      {rest : Schedule} (leads : Leads start es q) (last : v.start.quiet = q.quiet)
      (standing : v.standing = .finished reply m w rest) (signal : reply.signal ≠ .proceed)
      (world : w'.quiet = w.quiet) :
      Verdict p start (es ++ [.visited v]) (.finished reply m w' rest)
  /-- Every leaf that was started proceeded, and then a sequence found the context done. -/
  | contextDone {es : List Event} {q : Point} {name : String} {parts : List Pipeline} {e : Error}
      (leads : Leads start es q) (part : Part (.sequence name parts) p)
      (error : q.error? = some e) :
      Verdict p start (es ++ [.contextDone name e]) (q.answer (.propagate e))
  /-- The last leaf still waits. -/
  | waits {es : List Event} {q : Point} {v : Visit} {m : Moment} {w : World} {u : Wake}
      (leads : Leads start es q) (last : v.start.quiet = q.quiet)
      (standing : v.standing = .waiting m w u) :
      Verdict p start (es ++ [.visited v]) (.waiting m w u)

variable {p q : Pipeline} {start next : Point} {es before : List Event} {standing : Standing Reply}

namespace Leads

variable {p p' q q' : Point}

/-- Trails and logs make no difference to where leaves may start. -/
theorem of_quiet_eq_left (h : Leads p es q) (hp : p'.quiet = p.quiet) : Leads p' es q := by
  cases h with
  | here same => exact .here (hp.trans same)
  | visit start proceeds rest => exact .visit (start.trans hp.symm) proceeds rest

theorem of_quiet_eq_right (h : Leads p es q) (hq : q'.quiet = q.quiet) : Leads p es q' := by
  induction h with
  | here same => exact .here (same.trans hq.symm)
  | visit start proceeds rest ih => exact .visit start proceeds (ih hq)

/-- Leaves that lead on from where others ended lead on from where those began. -/
theorem trans {r : Point} (h : Leads p before q) (hes : Leads q es r) :
    Leads p (before ++ es) r := by
  induction h with
  | here same => exact hes.of_quiet_eq_left same
  | visit start proceeds rest ih => exact .visit start proceeds (ih hes)

end Leads

namespace Verdict

theorem mono (h : Verdict p start es standing) (hparts : ∀ r, Part r p → Part r q) :
    Verdict q start es standing := by
  cases h with
  | proceeds leads => exact .proceeds leads
  | stops leads last standing signal world => exact .stops leads last standing signal world
  | contextDone leads part error => exact .contextDone leads (hparts _ part) error
  | waits leads last standing => exact .waits leads last standing

theorem prepend (hbefore : Leads start before next) (h : Verdict p next es standing) :
    Verdict p start (before ++ es) standing := by
  cases h with
  | proceeds leads => exact .proceeds (hbefore.trans leads)
  | stops leads last standing signal world =>
    rw [← List.append_assoc]
    exact .stops (hbefore.trans leads) last standing signal world
  | contextDone leads part error =>
    rw [← List.append_assoc]
    exact .contextDone (hbefore.trans leads) part error
  | waits leads last standing =>
    rw [← List.append_assoc]
    exact .waits (hbefore.trans leads) last standing

/-- The start may differ in its trail and its log. -/
theorem of_quiet_eq (h : Verdict p next es standing) (hstart : start.quiet = next.quiet) :
    Verdict p start es standing := by
  rw [← List.nil_append es]
  exact h.prepend (.here hstart)

/-- A pipeline that leaves a point to its successor has only started leaves that proceeded. -/
theorem leads (h : Verdict p start es standing) (hnext : standing.next? = some next) :
    Leads start es next := by
  cases h with
  | proceeds leads =>
    obtain rfl := Option.some.inj hnext
    exact leads
  | stops leads last standing signal world =>
    rw [Standing.next?_finished_eq_none_iff.2 signal] at hnext
    exact nomatch hnext
  | contextDone leads part error => exact nomatch hnext
  | waits leads last standing => exact nomatch hnext

/-- A sequence passes on the reply of a part that does not proceed. -/
theorem stoppedBy (h : Verdict p start es standing) (hnext : standing.next? = none)
    (name : String) : Verdict p start es (standing.stoppedBy name) := by
  cases h with
  | proceeds leads => exact nomatch hnext
  | stops leads last standing signal world => exact .stops leads last standing signal world
  | @contextDone es q _ _ e leads part error =>
    have hlogged : Leads start es (q.log (.stopped name (.propagate e))) :=
      leads.of_quiet_eq_right (q.quiet_log _)
    exact .contextDone hlogged part error
  | waits leads last standing => exact .waits leads last standing

end Verdict

theorem verdict_parts {name : String} {parts all : List Pipeline} (start : Point)
    (hself : Part (.sequence name all) p)
    (hparts : ∀ q ∈ parts, ∀ span start,
      Verdict p start (q.events span start) (q.play span start)) :
    Verdict p start (partEvents name parts start) (playParts name parts start) := by
  induction parts generalizing start with
  | nil =>
    rw [partEvents_nil, playParts_nil]
    exact .proceeds (.here rfl)
  | cons q qs ih =>
    obtain ⟨hq, hqs⟩ := List.forall_mem_cons.1 hparts
    cases herror : start.error? with
    | some e =>
      rw [partEvents_cons_of_done herror, playParts_cons_of_done herror, ← List.nil_append [_]]
      exact .contextDone (.here rfl) hself herror
    | none =>
      have hverdict := (hq (some (.sequence name)) (start.log (.running q.action.name))).of_quiet_eq
        (start.quiet_log (.running q.action.name)).symm
      rw [partEvents_cons herror, playParts_cons herror]
      cases hnext : (q.play (some (.sequence name)) (start.log (.running q.action.name))).next? with
      | some next => exact (ih next hqs).prepend (hverdict.leads hnext)
      | none =>
        rw [List.append_nil]
        exact hverdict.stoppedBy hnext q.action.name

/-- A leaf is its own only start. -/
theorem verdict_leaf (action : Action) (span : Option Span) (start : Point) :
    Verdict (.leaf action) start (events (.leaf action) span start)
      ((leaf action).play span start) := by
  rw [events, play_leaf, ← List.nil_append [_]]
  cases h : action.play span start with
  | waiting m w u => exact .waits (.here rfl) rfl h
  | finished reply m w rest =>
    by_cases hsignal : reply.signal = .proceed
    · have hnext : (Visit.mk action span start).next? =
          some ⟨reply.ctx, reply.state, m, w, rest⟩ := by
        rw [Visit.next?, Visit.standing, h, Standing.next?_finished_of_proceed hsignal]
      obtain ⟨signal, ctx, state⟩ := reply
      obtain rfl : signal = .proceed := hsignal
      exact .proceeds (.visit rfl hnext (.here rfl))
    · exact .stops (.here rfl) rfl h hsignal rfl

/-- At any depth of composers, the last leaf alone decides the signal, or a done context does. -/
theorem verdict (p : Pipeline) (span : Option Span) (start : Point) :
    Verdict p start (p.events span start) (p.play span start) := by
  induction p generalizing span start with
  | leaf action => exact verdict_leaf action span start
  | sequence name parts ih =>
    rw [events_sequence, play_sequence]
    refine (verdict_parts _ .self fun q hq span start ↦ ?_).of_quiet_eq (start.quiet_log _).symm
    exact (ih q hq span start).mono fun r ↦ .sequence hq
  | switch name cases default ihcases ihdefault =>
    have hquiet : start.quiet = (choosing name cases default start).quiet :=
      (Point.quiet_choosing name _ _ start).symm
    rw [events_switch, play_switch]
    cases hchoice : choice? start.scene cases default with
    | none => exact .proceeds (.here hquiet)
    | some q =>
      have hverdict : Verdict q (choosing name cases default start)
          (q.events (some (.switch name)) (choosing name cases default start))
          (q.play (some (.switch name)) (choosing name cases default start)) := by
        obtain ⟨c, hc, rfl⟩ | hdefault := mem_or_eq_of_choice? hchoice
        · exact ihcases c hc _ _
        · exact ihdefault q hdefault _ _
      exact (hverdict.mono fun r ↦ .of_choice? hchoice).of_quiet_eq hquiet

end ControlLoop.Pipeline
