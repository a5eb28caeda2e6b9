import ControlLoop.Proofs.Pipeline.Courses

/-!
# Sequences flatten

A sequence within a sequence does what its parts would do in its place. The check before the inner
sequence and the one before its first part see the same context at the same moment, so that one of
the two is enough. Only an inner sequence without parts has a check of its own, and that is only
noticed if no other check follows it.
-/

namespace ControlLoop

/-- A standing that leaves a point to a successor is an answer to proceed at that point. -/
theorem Standing.eq_answer_of_next? {st : Standing Reply} {q : Point} (h : st.next? = some q) :
    st = q.answer .proceed := by
  cases st with
  | waiting m w u => cases h
  | finished reply m w rest =>
    unfold next? at h
    cases hterminal : reply.signal.isTerminal with
    | true => simp [hterminal] at h
    | false =>
      have hsignal : reply.signal = .proceed := Signal.isTerminal_eq_false_iff.1 hterminal
      obtain ⟨signal, ctx, state⟩ := reply
      simp only [hterminal, Bool.false_eq_true, if_false, Option.some.injEq] at h
      subst h hsignal
      rfl

namespace Pipeline

variable {outer inner : String} {xs ys zs : List Pipeline} {span span' : Option Span}
  {start start' q : Point} {e : Error}

/-- Where the context is not done, an inner sequence goes on like its parts. -/
theorem partsCourse_inner_of_eq_none (hys : ∀ p ∈ ys, p.Blind) (hzs : ∀ p ∈ zs, p.Blind)
    (h : q.error? = none) :
    partsCourse (sequence inner ys :: zs) q = partsCourse (ys ++ zs) q := by
  rw [partsCourse_cons h, course_sequence hys, partsCourse_append hzs]

/-- Where the context is done, an inner sequence stops the outer one, and so does any part. -/
theorem partsCourse_inner (hys : ∀ p ∈ ys, p.Blind) (hzs : ∀ p ∈ zs, p.Blind)
    (hmore : ys ++ zs ≠ []) : partsCourse (sequence inner ys :: zs) = partsCourse (ys ++ zs) := by
  funext q
  cases hdone : q.error? with
  | none => exact partsCourse_inner_of_eq_none hys hzs hdone
  | some e =>
    obtain ⟨p, ps, hps⟩ := List.exists_cons_of_ne_nil hmore
    rw [hps, partsCourse_cons_of_done hdone, partsCourse_cons_of_done hdone]

/-- A sequence of two lists of parts takes the course of one and then that of the other. -/
theorem course_sequence_append (hxs : ∀ p ∈ xs, p.Blind) (hys : ∀ p ∈ ys, p.Blind) :
    (sequence outer (xs ++ ys)).course span start =
      ((sequence outer xs).course span start).andThen (partsCourse ys) := by
  rw [course_sequence (List.forall_mem_append.2 ⟨hxs, hys⟩), partsCourse_append hys,
    course_sequence hxs]

theorem next?_course (p : Pipeline) (span : Option Span) (start : Point) :
    (p.course span start).standing.next? = (p.play span start).next?.map Point.bare :=
  Standing.next?_bare _

theorem standing_course_of_next? {p : Pipeline} (hnext : (p.play span start).next? = some q) :
    (p.course span start).standing = q.bare.answer .proceed := by
  change (p.play span start).bare = _
  rw [Standing.eq_answer_of_next? hnext, Standing.bare_answer]

section Flattening

variable (hxs : ∀ p ∈ xs, p.Blind) (hys : ∀ p ∈ ys, p.Blind) (hzs : ∀ p ∈ zs, p.Blind)
include hxs hys hzs

theorem course_nested_eq :
    (sequence outer (xs ++ sequence inner ys :: zs)).course span start =
      ((sequence outer xs).course span start).andThen (partsCourse (sequence inner ys :: zs)) :=
  course_sequence_append hxs (List.forall_mem_cons.2 ⟨.sequence hys inner, hzs⟩)

theorem course_flat_eq :
    (sequence outer (xs ++ ys ++ zs)).course span start =
      ((sequence outer xs).course span start).andThen (partsCourse (ys ++ zs)) := by
  rw [List.append_assoc]
  exact course_sequence_append hxs (List.forall_mem_append.2 ⟨hys, hzs⟩)

/-- If the nested sequence takes another course than the flat one, then at an inner sequence that is
reached with a context that is done. -/
theorem exists_done_of_course_ne
    (h : (sequence outer (xs ++ sequence inner ys :: zs)).course span start ≠
      (sequence outer (xs ++ ys ++ zs)).course span start) :
    ∃ q e, ((sequence outer xs).play span start).next? = some q ∧ q.error? = some e := by
  have hleft := next?_course (sequence outer xs) span start
  rw [course_nested_eq hxs hys hzs, course_flat_eq hxs hys hzs] at h
  cases hnext : ((sequence outer xs).play span start).next? with
  | none =>
    rw [hnext, Option.map_none] at hleft
    rw [Course.andThen_of_eq_none hleft, Course.andThen_of_eq_none hleft] at h
    exact absurd rfl h
  | some q =>
    rw [hnext, Option.map_some] at hleft
    cases herror : q.error? with
    | some e => exact ⟨q, e, rfl, herror⟩
    | none =>
      have hbare : q.bare.error? = none := herror
      rw [Course.andThen_of_eq_some hleft, Course.andThen_of_eq_some hleft,
        partsCourse_inner_of_eq_none hys hzs hbare] at h
      exact absurd rfl h

end Flattening

/-- An empty inner sequence at the end stops the outer one if the context is done there. -/
theorem course_nested_empty_of_done (hxs : ∀ p ∈ xs, p.Blind)
    (hnext : ((sequence outer xs).play span start).next? = some q) (hdone : q.error? = some e) :
    (sequence outer (xs ++ [sequence inner []])).course span start =
      ⟨q.bare.answer (.propagate e), ((sequence outer xs).course span start).starts⟩ := by
  have hnone : ∀ p ∈ ([] : List Pipeline), p.Blind := fun p hp ↦ absurd hp List.not_mem_nil
  have hbare : q.bare.error? = some e := hdone
  have hleft : ((sequence outer xs).course span start).standing.next? = some q.bare := by
    rw [next?_course, hnext, Option.map_some]
  rw [course_nested_eq hxs hnone hnone, Course.andThen_of_eq_some hleft,
    partsCourse_cons_of_done hbare]
  simp [Course.answer]

/-- A sequence with an inner sequence takes the course of the flat one, but where the inner one is
empty and nothing follows it, and the others have proceeded and left a context that is done: then
the nested sequence propagates the error of that context and the flat one proceeds. -/
theorem course_nested_sequence (hxs : ∀ p ∈ xs, p.Blind) (hys : ∀ p ∈ ys, p.Blind)
    (hzs : ∀ p ∈ zs, p.Blind) (hstart : start.bare = start'.bare) :
    let nested := (sequence outer (xs ++ sequence inner ys :: zs)).course span start
    let flat := (sequence outer (xs ++ ys ++ zs)).course span' start'
    let left := (sequence outer xs).play span start
    (ys ≠ [] → nested = flat) ∧
    (ys = [] →
      (nested ≠ flat ↔ zs = [] ∧ ∃ q e, left.next? = some q ∧ q.error? = some e)) ∧
    ∀ q e, ys = [] → zs = [] → left.next? = some q → q.error? = some e →
      nested = ⟨q.bare.answer (.propagate e), flat.starts⟩ ∧
        flat.standing = q.bare.answer .proceed := by
  intro nested flat left
  have hflat : flat = (sequence outer (xs ++ ys ++ zs)).course span start := by
    have hall : ∀ p ∈ xs ++ ys ++ zs, p.Blind :=
      List.forall_mem_append.2 ⟨List.forall_mem_append.2 ⟨hxs, hys⟩, hzs⟩
    exact (Blind.sequence hall outer span span' start start' hstart).symm
  have hmore (h : ys ++ zs ≠ []) : nested = flat := by
    rw [hflat, course_flat_eq hxs hys hzs, ← partsCourse_inner hys hzs h]
    exact course_nested_eq hxs hys hzs
  have hlast (q : Point) (e : Error) (hnoys : ys = []) (hnozs : zs = [])
      (hnext : left.next? = some q) (herror : q.error? = some e) :
      nested = ⟨q.bare.answer (.propagate e), flat.starts⟩ ∧
        flat.standing = q.bare.answer .proceed := by
    subst hnoys hnozs
    rw [hflat, List.append_nil, List.append_nil]
    exact ⟨course_nested_empty_of_done hxs hnext herror, standing_course_of_next? hnext⟩
  refine ⟨fun hsome ↦ hmore fun hnil ↦ hsome (List.append_eq_nil_iff.1 hnil).1,
    fun hnoys ↦ ⟨fun h ↦ ⟨?_, ?_⟩, ?_⟩, hlast⟩
  · by_cases hnozs : zs = []
    · exact hnozs
    · exact absurd (hmore fun hnil ↦ hnozs (List.append_eq_nil_iff.1 hnil).2) h
  · exact exists_done_of_course_ne hxs hys hzs (hflat ▸ h)
  · rintro ⟨hnozs, q, e, hnext, herror⟩ hsame
    obtain ⟨hstops, hproceeds⟩ := hlast q e hnoys hnozs hnext herror
    have hanswers : q.bare.answer (.propagate e) = q.bare.answer .proceed := by
      rw [← hproceeds, ← hsame, hstops]
    cases hanswers

/-- Leaves a context whose time is over. -/
def expiring : Action where
  name := "expire"
  run _ ctx state := pure ⟨.proceed, ctx.withDeadline ⟨0⟩, state⟩

theorem blind_expiring : expiring.Blind := by
  intro span span' start start' hstart
  have hplay (span : Option Span) (p : Point) : (expiring.play span p).bare =
      ({ p.bare with ctx := p.bare.ctx.withDeadline ⟨0⟩ } : Point).answer .proceed := rfl
  rw [hplay, hplay, hstart]

/-- An empty sequence after the expiring action notices that the time is over; a sequence of one
action more makes no difference. -/
theorem course_nested_sequence_expiring :
    let start : Point :=
      ⟨.background none, { object := ⟨"Lease", { name := "a" }, ∅, ""⟩ }, ⟨⟨0⟩, .read 0⟩, {}, []⟩
    let course := fun parts ↦ (sequence "outer" parts).course none start
    course [leaf expiring, sequence "inner" [leaf .proceed]] =
        course [leaf expiring, leaf .proceed] ∧
      ∃ q : Point, (course [leaf expiring, sequence "inner" []]).standing =
          q.answer (.propagate .deadlineExceeded) ∧
        (course [leaf expiring]).standing = q.answer .proceed := by
  intro start course
  have hxs : ∀ p ∈ [leaf expiring], p.Blind := by
    intro p hp
    rw [List.mem_singleton.1 hp]
    exact .leaf blind_expiring
  have hys : ∀ p ∈ [leaf .proceed], p.Blind := by
    intro p hp
    rw [List.mem_singleton.1 hp]
    exact .leaf (Action.blind_always _ _)
  have hnone : ∀ p ∈ ([] : List Pipeline), p.Blind := fun p hp ↦ absurd hp List.not_mem_nil
  have hstart : start.bare = start.bare := rfl
  have hsame : course [leaf expiring, sequence "inner" [leaf .proceed]] =
      course [leaf expiring, leaf .proceed] :=
    (course_nested_sequence hxs hys hnone hstart).1 (List.cons_ne_nil _ _)
  obtain ⟨-, -, hlast⟩ := course_nested_sequence hxs hnone hnone hstart
  obtain ⟨hnested, hflat⟩ := hlast _ .deadlineExceeded rfl rfl rfl rfl
  exact ⟨hsame, _, congrArg Course.standing hnested, hflat⟩

end Pipeline

end ControlLoop
