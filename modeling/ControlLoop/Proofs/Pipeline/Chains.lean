import ControlLoop.Proofs.Pipeline.Courses

/-!
# Switches and chains

A switch asks its predicates in order up to the first that holds, each once, and all that it does
then is to run the part of that case, or the default if none holds. A chain of switches with one
case each, every one the default of the one before, asks the same predicates in the same order and
runs the same part.
-/

namespace ControlLoop.Pipeline

/-- The notes of the predicates of cases, each asked once. -/
def notes (s : Scene) (cases : List (Predicate × Pipeline)) : List Note :=
  cases.flatMap fun c ↦ (c.1.eval s).2

/-- All that the pipeline does is to run the chosen part from a point; with none chosen it proceeds
there. -/
def RunsOnly (p : Pipeline) (span : Option Span) (start : Point) :
    Option Pipeline → Point → Prop
  | some part, entered => ∃ inner,
    p.play span start = part.play inner entered ∧ p.events span start = part.events inner entered
  | none, entered => p.play span start = entered.answer .proceed ∧ p.events span start = []

/-- Named switches with one case each, every one the default of the one before. -/
def chain (default : Option Pipeline) : List (String × Predicate × Pipeline) → Option Pipeline
  | [] => default
  | (name, predicate, part) :: rest => some (ifElse name predicate part (chain default rest))

variable {name : String} {cases cs before after : List (Predicate × Pipeline)}
  {default : Option Pipeline} {c : Predicate × Pipeline} {s : Scene} {span : Option Span}
  {start : Point}

theorem choice?_cons_of_true (hc : (c.1.eval s).1 = true) :
    choice? s (c :: cs) default = some c.2 := by
  unfold choice?
  rw [List.find?_cons, hc]

theorem choice?_cons_of_false (hc : (c.1.eval s).1 = false) :
    choice? s (c :: cs) default = choice? s cs default := by
  unfold choice?
  rw [List.find?_cons, hc]

theorem asked_cons_of_true (hc : (c.1.eval s).1 = true) : asked s (c :: cs) = (c.1.eval s).2 := by
  rw [asked, hc, if_pos rfl, List.append_nil]

theorem asked_cons_of_false (hc : (c.1.eval s).1 = false) :
    asked s (c :: cs) = (c.1.eval s).2 ++ asked s cs := by
  rw [asked, hc, if_neg Bool.false_ne_true]

theorem fst_select_cons_of_true (hc : (c.1.eval s).1 = true) (index : Nat) :
    (Case.select s index (caseActions (c :: cs))).1 = some (index, c.2.action) := by
  obtain ⟨predicate, part⟩ := c
  simp only [caseActions, caseAction, Case.select]
  cases heval : predicate.eval s with
  | mk holds more =>
    rw [heval] at hc
    subst hc
    rfl

theorem fst_select_cons_of_false (hc : (c.1.eval s).1 = false) (index : Nat) :
    (Case.select s index (caseActions (c :: cs))).1 =
      (Case.select s (index + 1) (caseActions cs)).1 := by
  obtain ⟨predicate, part⟩ := c
  simp only [caseActions, caseAction, Case.select]
  cases heval : predicate.eval s with
  | mk holds more =>
    rw [heval] at hc
    subst hc
    rfl

section First

variable (hbefore : ∀ d ∈ before, (d.1.eval s).1 = false) (hc : (c.1.eval s).1 = true)
include hbefore hc

/-- The part of the first case whose predicate holds is chosen. -/
theorem choice?_of_first : choice? s (before ++ c :: after) default = some c.2 := by
  induction before with
  | nil => exact choice?_cons_of_true hc
  | cons d ds ih =>
    obtain ⟨hd, hds⟩ := List.forall_mem_cons.1 hbefore
    exact (choice?_cons_of_false hd).trans (ih hds)

/-- Predicates are asked up to the first that holds, and none after it. -/
theorem asked_of_first : asked s (before ++ c :: after) = notes s (before ++ [c]) := by
  induction before with
  | nil => exact (asked_cons_of_true hc).trans (List.append_nil _).symm
  | cons d ds ih =>
    obtain ⟨hd, hds⟩ := List.forall_mem_cons.1 hbefore
    exact (asked_cons_of_false hd).trans (congrArg ((d.1.eval s).2 ++ ·) (ih hds))

/-- The case that is selected is counted from the one the search starts with. -/
theorem fst_select_of_first (index : Nat) :
    (Case.select s index (caseActions (before ++ c :: after))).1 =
      some (index + before.length, c.2.action) := by
  induction before generalizing index with
  | nil => exact fst_select_cons_of_true hc index
  | cons d ds ih =>
    obtain ⟨hd, hds⟩ := List.forall_mem_cons.1 hbefore
    rw [List.cons_append, fst_select_cons_of_false hd, ih hds, List.length_cons,
      Nat.add_assoc, Nat.add_comm 1]

end First

section None

variable (hcases : ∀ d ∈ cases, (d.1.eval s).1 = false)
include hcases

/-- Where no predicate holds, the default is chosen. -/
theorem choice?_of_none : choice? s cases default = default := by
  induction cases with
  | nil => rfl
  | cons d ds ih =>
    obtain ⟨hd, hds⟩ := List.forall_mem_cons.1 hcases
    exact (choice?_cons_of_false hd).trans (ih hds)

/-- Where no predicate holds, all of them are asked. -/
theorem asked_of_none : asked s cases = notes s cases := by
  induction cases with
  | nil => rfl
  | cons d ds ih =>
    obtain ⟨hd, hds⟩ := List.forall_mem_cons.1 hcases
    exact (asked_cons_of_false hd).trans (congrArg ((d.1.eval s).2 ++ ·) (ih hds))

theorem fst_select_of_none (index : Nat) :
    (Case.select s index (caseActions cases)).1 = none := by
  induction cases generalizing index with
  | nil => rfl
  | cons d ds ih =>
    obtain ⟨hd, hds⟩ := List.forall_mem_cons.1 hcases
    exact (fst_select_cons_of_false hd index).trans (ih hds (index + 1))

end None

/-- A switch runs what it chooses and nothing else. -/
theorem runsOnly_switch (name : String) (cases : List (Predicate × Pipeline))
    (default : Option Pipeline) (span : Option Span) (start : Point) :
    (switch name cases default).RunsOnly span start (choice? start.scene cases default)
      (choosing name cases default start) := by
  have hplay := play_switch name cases default span start
  have hevents := events_switch name cases default span start
  cases hchoice : choice? start.scene cases default with
  | some part =>
    rw [hchoice] at hplay hevents
    exact ⟨some (.switch name), hplay, hevents⟩
  | none =>
    rw [hchoice] at hplay hevents
    exact ⟨hplay, hevents⟩

theorem scene_choosing (name : String) (cases : List (Predicate × Pipeline))
    (default : Option Pipeline) (start : Point) :
    (choosing name cases default start).scene = start.scene := by
  rw [choosing_eq, Point.scene_log, Point.scene_noting, Point.scene_log]

/-- A pipeline that plays like another, with the same events, runs only what the other runs. -/
theorem RunsOnly.of_eq {p q : Pipeline} {inner : Option Span} {first entered : Point}
    {chosen : Option Pipeline} (h : q.RunsOnly inner first chosen entered)
    (hplay : p.play span start = q.play inner first)
    (hevents : p.events span start = q.events inner first) :
    p.RunsOnly span start chosen entered := by
  cases chosen with
  | none => exact ⟨hplay.trans h.1, hevents.trans h.2⟩
  | some part =>
    obtain ⟨span', hpart, hparts⟩ := h
    exact ⟨span', hplay.trans hpart, hevents.trans hparts⟩

/-- Pipelines that run the same blind part from points that differ by spans and the log only take
the same course. -/
theorem RunsOnly.course_eq {p q : Pipeline} {span' : Option Span} {start' entered entered' : Point}
    {chosen : Option Pipeline} (hp : p.RunsOnly span start chosen entered)
    (hq : q.RunsOnly span' start' chosen entered') (hentered : entered.bare = entered'.bare)
    (hblind : ∀ part, chosen = some part → part.Blind) :
    p.course span start = q.course span' start' := by
  unfold course
  cases chosen with
  | none =>
    rw [hp.1, hp.2, hq.1, hq.2, Standing.bare_answer, Standing.bare_answer, hentered]
  | some part =>
    obtain ⟨inner, hplay, hevents⟩ := hp
    obtain ⟨inner', hplay', hevents'⟩ := hq
    rw [hplay, hevents, hplay', hevents']
    exact hblind part rfl inner inner' entered entered' hentered

/-- A chain runs what the switch over its cases chooses, from a point that differs from the one
where the switch runs it by the log only. -/
theorem runsOnly_chain {cs : List (String × Predicate × Pipeline)} {q : Pipeline}
    (hchain : chain default cs = some q) (span : Option Span) (start : Point) :
    ∃ entered, entered.bare = start.bare.noting (asked start.scene (cs.map Prod.snd)) ∧
      q.RunsOnly span start (choice? start.scene (cs.map Prod.snd) default) entered := by
  induction cs generalizing q span start with
  | nil =>
    rw [chain] at hchain
    subst hchain
    exact ⟨start, (Point.noting_nil _).symm, span, rfl, rfl⟩
  | cons c cs ih =>
    obtain ⟨name, predicate, part⟩ := c
    have hfirst := runsOnly_switch name [(predicate, part)] (chain default cs) span start
    have hscene := scene_choosing name [(predicate, part)] (chain default cs) start
    have hbare := bare_choosing name [(predicate, part)] (chain default cs) start
    rw [chain] at hchain
    obtain rfl := Option.some.inj hchain
    rw [List.map_cons]
    generalize choosing name [(predicate, part)] (chain default cs) start = first at *
    cases heval : (predicate.eval start.scene).1 with
    | true =>
      rw [choice?_cons_of_true heval] at hfirst ⊢
      rw [asked_cons_of_true heval] at hbare ⊢
      exact ⟨first, hbare, hfirst⟩
    | false =>
      rw [choice?_cons_of_false heval] at hfirst ⊢
      rw [asked_cons_of_false heval] at hbare ⊢
      rw [asked, List.append_nil] at hbare
      change RunsOnly _ span start (chain default cs) first at hfirst
      cases hrest : chain default cs with
      | none =>
        rw [hrest] at hfirst
        cases cs with
        | cons c cs => cases hrest
        | nil =>
          obtain rfl : default = none := hrest
          rw [List.map_nil, asked, List.append_nil]
          exact ⟨first, hbare, hfirst⟩
      | some r =>
        rw [hrest] at hfirst
        obtain ⟨inner, hplay, hevents⟩ := hfirst
        obtain ⟨entered, hentered, hruns⟩ := ih hrest inner first
        rw [hscene] at hentered hruns
        refine ⟨entered, ?_, hruns.of_eq hplay hevents⟩
        rw [hentered, hbare, Point.noting_noting]

/-- A switch asks the predicates of its cases in order, each once and none after the first that
holds, and then runs the part of that case and nothing else, or the default if none holds, on the
context and state that it was given. A chain over the same cases asks the same predicates and runs
the same part, and takes the same course if that is blind. -/
theorem switch_exclusive (name : String) (cases : List (Predicate × Pipeline))
    (default : Option Pipeline) (span : Option Span) (start : Point) :
    let opened := start.log (.switchOpened name start.ctx.span)
    (∀ before c after, cases = before ++ c :: after →
      (∀ d ∈ before, (d.1.eval start.scene).1 = false) → (c.1.eval start.scene).1 = true →
      (switch name cases default).RunsOnly span start (some c.2)
        ((opened.noting (notes start.scene (before ++ [c]))).log
          (.caseMatched before.length c.2.action.name))) ∧
    ((∀ d ∈ cases, (d.1.eval start.scene).1 = false) →
      (switch name cases default).RunsOnly span start default
        ((opened.noting (notes start.scene cases)).log .noCaseMatched)) ∧
    ∀ cs q, cases = cs.map Prod.snd → chain default cs = some q →
      ∃ entered entered',
        (switch name cases default).RunsOnly span start (choice? start.scene cases default)
          entered ∧
        q.RunsOnly span start (choice? start.scene cases default) entered' ∧
        entered.bare = entered'.bare ∧
        ((∀ part, choice? start.scene cases default = some part → part.Blind) →
          (switch name cases default).course span start = q.course span start) := by
  have hswitch := runsOnly_switch name cases default span start
  refine ⟨?_, fun hcases ↦ ?_, ?_⟩
  · rintro before c after rfl hbefore hc
    rw [choice?_of_first hbefore hc, choosing_eq, asked_of_first hbefore hc,
      fst_select_of_first hbefore hc 0, Nat.zero_add] at hswitch
    exact hswitch
  · rw [choice?_of_none hcases, choosing_eq, asked_of_none hcases,
      fst_select_of_none hcases 0] at hswitch
    exact hswitch
  · rintro cs q rfl hchain
    obtain ⟨entered', hentered, hruns⟩ := runsOnly_chain hchain span start
    have hsame := (bare_choosing name (cs.map Prod.snd) default start).trans hentered.symm
    exact ⟨_, entered', hswitch, hruns, hsame, hswitch.course_eq hruns hsame⟩

/-- The second case is the first that holds. -/
def options : List (String × Predicate × Pipeline) :=
  [("drop", .asking "expired" false, leaf .forget), ("keep", .asking "held" true, leaf .proceed),
    ("renew", .asking "due" true, leaf (.requeue none))]

theorem switch_exclusive_options :
    let start : Point :=
      ⟨.background none, { object := ⟨"Lease", { name := "a" }, ∅, ""⟩ }, ⟨⟨0⟩, .read 0⟩, {}, []⟩
    let chosen := switch "lease" (options.map Prod.snd) none
    chosen.RunsOnly none start (some (leaf .proceed))
        (((start.log (.switchOpened "lease" none)).noting [.step "expired", .step "held"]).log
          (.caseMatched 1 "continue")) ∧
      ∃ q, chain none options = some q ∧ chosen.course none start = q.course none start := by
  intro start chosen
  obtain ⟨hfirst, -, hchain⟩ := switch_exclusive "lease" (options.map Prod.snd) none none start
  have hbefore : ∀ d ∈ (options.map Prod.snd).take 1, (d.1.eval start.scene).1 = false := by
    intro d hd
    rw [List.mem_singleton.1 hd]
    rfl
  obtain ⟨_, _, -, -, -, hcourse⟩ := hchain options _ rfl rfl
  refine ⟨hfirst _ _ _ rfl hbefore rfl, _, rfl, hcourse fun part hpart ↦ ?_⟩
  obtain rfl : leaf .proceed = part := Option.some.inj hpart
  exact .leaf (Action.blind_always _ _)

end ControlLoop.Pipeline
