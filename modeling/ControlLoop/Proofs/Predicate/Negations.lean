import Mathlib.Logic.Relation
import ControlLoop.Predicate

/-!
# Negations pushed to the leaves

A conjunction and a disjunction are one scan with two stops: the first ends at the first part that
is false, the second at the first that is true. An evaluation is therefore kept as the truth value
together with the leaves that were asked for it, in order, and both laws of the scan are stated for
either stop: negating every part negates the whole, and a part that is itself a scan with the same
stop may be replaced by its parts.
-/

namespace ControlLoop

namespace Predicate

/-- A truth value and the leaves that were asked for it, in the order in which they were. -/
structure Evaluation where
  value : Bool
  leaves : List (Scene → Bool × List Note)

namespace Evaluation

def negate (e : Evaluation) : Evaluation := { e with value := !e.value }

@[simp]
theorem negate_negate (e : Evaluation) : e.negate.negate = e := by
  simp [negate]

/-- The value and the notes of asking these leaves. -/
def seen (s : Scene) (e : Evaluation) : Bool × List Note :=
  (e.value, e.leaves.flatMap fun test ↦ (test s).2)

/-- The first evaluation has not settled the value, so that it is the second's. -/
def followedBy (e f : Evaluation) : Evaluation := ⟨f.value, e.leaves ++ f.leaves⟩

theorem followedBy_assoc (e f g : Evaluation) :
    (e.followedBy f).followedBy g = e.followedBy (f.followedBy g) := by
  simp [followedBy]

/-- Evaluations made one after the other up to the first whose value is `stop`, which is then the
value of them all. -/
def scan (stop : Bool) : List Evaluation → Evaluation
  | [] => ⟨!stop, []⟩
  | e :: es => if e.value = stop then e else e.followedBy (scan stop es)

theorem scan_cons_of_eq {stop : Bool} {e : Evaluation} (h : e.value = stop)
    (es : List Evaluation) : scan stop (e :: es) = e := if_pos h

theorem scan_cons_of_ne {stop : Bool} {e : Evaluation} (h : e.value ≠ stop)
    (es : List Evaluation) : scan stop (e :: es) = e.followedBy (scan stop es) := if_neg h

/-- De Morgan's law for the evaluations, not for their values only. -/
theorem scan_map_negate (stop : Bool) (es : List Evaluation) :
    scan (!stop) (es.map negate) = (scan stop es).negate := by
  induction es with
  | nil => rfl
  | cons e es ih =>
    rw [List.map_cons]
    by_cases h : e.value = stop
    · have hnegated : e.negate.value = !stop := congrArg (!·) h
      rw [scan_cons_of_eq hnegated, scan_cons_of_eq h]
    · have hnegated : e.negate.value ≠ !stop := fun heq ↦ h (Bool.not_inj heq)
      rw [scan_cons_of_ne hnegated, scan_cons_of_ne h, ih]
      rfl

/-- A scan within a scan for the same value asks as its parts would in its place. -/
theorem scan_append (stop : Bool) (nested after : List Evaluation) :
    scan stop (nested ++ after) = scan stop (scan stop nested :: after) := by
  induction nested with
  | nil => rw [scan_cons_of_ne (by simp [scan])]; rfl
  | cons e es ih =>
    rw [List.cons_append]
    by_cases h : e.value = stop
    · rw [scan_cons_of_eq h, scan_cons_of_eq h, scan_cons_of_eq h]
    · rw [scan_cons_of_ne h, scan_cons_of_ne h, ih]
      by_cases hes : (scan stop es).value = stop
      · have hfollowed : (e.followedBy (scan stop es)).value = stop := hes
        rw [scan_cons_of_eq hes, scan_cons_of_eq hfollowed]
      · have hfollowed : (e.followedBy (scan stop es)).value ≠ stop := hes
        rw [scan_cons_of_ne hes, scan_cons_of_ne hfollowed, followedBy_assoc]

/-- What comes to the same evaluation does so after the same evaluations before it. -/
theorem scan_append_congr {stop : Bool} {es fs : List Evaluation}
    (h : scan stop es = scan stop fs) (before : List Evaluation) :
    scan stop (before ++ es) = scan stop (before ++ fs) := by
  induction before with
  | nil => exact h
  | cons e before ih => simp only [List.cons_append, scan, ih]

end Evaluation

open Evaluation (scan)

/-! ## What evaluating a predicate asks -/

mutual

def evaluation (s : Scene) : Predicate → Evaluation
  | .leaf test => ⟨(test s).1, [test]⟩
  | .not p => (evaluation s p).negate
  | .all ps => scan false (evaluations s ps)
  | .any ps => scan true (evaluations s ps)

def evaluations (s : Scene) : List Predicate → List Evaluation
  | [] => []
  | p :: ps => evaluation s p :: evaluations s ps

end

theorem evaluations_eq_map (s : Scene) (ps : List Predicate) :
    evaluations s ps = ps.map (evaluation s) := by
  induction ps with
  | nil => rfl
  | cons p ps ih => rw [evaluations, ih, List.map_cons]

mutual

/-- The value and the notes that a predicate gives are those of its evaluation. -/
theorem eval_eq_seen (s : Scene) : ∀ p : Predicate, p.eval s = (p.evaluation s).seen s
  | .leaf test => by simp [eval, evaluation, Evaluation.seen]
  | .not p => by
    rw [eval, eval_eq_seen s p]
    rfl
  | .all ps => by rw [eval, evaluation, evalAll_eq_seen s ps]
  | .any ps => by rw [eval, evaluation, evalAny_eq_seen s ps]

theorem evalAll_eq_seen (s : Scene) :
    ∀ ps : List Predicate, evalAll s ps = (scan false (evaluations s ps)).seen s
  | [] => rfl
  | p :: ps => by
    rw [evalAll, evaluations, eval_eq_seen s p, evalAll_eq_seen s ps]
    cases hp : (p.evaluation s).value <;> simp [Evaluation.seen, scan, Evaluation.followedBy, hp]

theorem evalAny_eq_seen (s : Scene) :
    ∀ ps : List Predicate, evalAny s ps = (scan true (evaluations s ps)).seen s
  | [] => rfl
  | p :: ps => by
    rw [evalAny, evaluations, eval_eq_seen s p, evalAny_eq_seen s ps]
    cases hp : (p.evaluation s).value <;> simp [Evaluation.seen, scan, Evaluation.followedBy, hp]

end

/-! ## Pushing negations -/

mutual

/-- The predicate, or its negation, with every negation pushed down to the leaves. -/
def pushed (negated : Bool) : Predicate → Predicate
  | .leaf test => bif negated then .not (.leaf test) else .leaf test
  | .not p => pushed (!negated) p
  | .all ps => bif negated then .any (pushedEach negated ps) else .all (pushedEach negated ps)
  | .any ps => bif negated then .all (pushedEach negated ps) else .any (pushedEach negated ps)

def pushedEach (negated : Bool) : List Predicate → List Predicate
  | [] => []
  | p :: ps => pushed negated p :: pushedEach negated ps

end

/-- Nothing but leaves is negated. -/
inductive NegatesLeaves : Predicate → Prop
  | leaf (test : Scene → Bool × List Note) : NegatesLeaves (.leaf test)
  | not (test : Scene → Bool × List Note) : NegatesLeaves (.not (.leaf test))
  | all {ps : List Predicate} (parts : ∀ p ∈ ps, NegatesLeaves p) : NegatesLeaves (.all ps)
  | any {ps : List Predicate} (parts : ∀ p ∈ ps, NegatesLeaves p) : NegatesLeaves (.any ps)

mutual

theorem negatesLeaves_pushed (negated : Bool) : ∀ p : Predicate, (p.pushed negated).NegatesLeaves
  | .leaf test => by
    cases negated with
    | false => exact .leaf test
    | true => exact .not test
  | .not p => negatesLeaves_pushed (!negated) p
  | .all ps => by
    have hparts := negatesLeaves_of_mem_pushedEach negated ps
    cases negated with
    | false => exact .all hparts
    | true => exact .any hparts
  | .any ps => by
    have hparts := negatesLeaves_of_mem_pushedEach negated ps
    cases negated with
    | false => exact .any hparts
    | true => exact .all hparts

theorem negatesLeaves_of_mem_pushedEach (negated : Bool) :
    ∀ (ps : List Predicate), ∀ p ∈ pushedEach negated ps, p.NegatesLeaves
  | [] => List.forall_mem_nil _
  | p :: ps => List.forall_mem_cons.2
      ⟨negatesLeaves_pushed negated p, negatesLeaves_of_mem_pushedEach negated ps⟩

end

mutual

/-- Under a negation the value is the other one; what is asked for it stays. -/
theorem evaluation_pushed (s : Scene) (negated : Bool) : ∀ p : Predicate,
    (p.pushed negated).evaluation s =
      bif negated then (p.evaluation s).negate else p.evaluation s
  | .leaf _ => by cases negated <;> rfl
  | .not p => by
    rw [pushed, evaluation_pushed s (!negated) p, evaluation]
    cases negated with
    | false => rfl
    | true => exact (Evaluation.negate_negate _).symm
  | .all ps => by
    have hparts := evaluations_pushedEach s negated ps
    cases negated with
    | false => exact congrArg (scan false) hparts
    | true => exact (congrArg (scan true) hparts).trans (Evaluation.scan_map_negate false _)
  | .any ps => by
    have hparts := evaluations_pushedEach s negated ps
    cases negated with
    | false => exact congrArg (scan true) hparts
    | true => exact (congrArg (scan false) hparts).trans (Evaluation.scan_map_negate true _)

/-- Negations pushed into each of several predicates negate each of their evaluations. -/
theorem evaluations_pushedEach (s : Scene) (negated : Bool) : ∀ ps : List Predicate,
    evaluations s (pushedEach negated ps) =
      bif negated then (evaluations s ps).map Evaluation.negate else evaluations s ps
  | [] => by cases negated <;> rfl
  | p :: ps => by
    rw [pushedEach, evaluations, evaluation_pushed s negated p, evaluations_pushedEach s negated ps]
    cases negated <;> rfl

end

/-! ## Splicing -/

/-- One conjunction within a conjunction, or disjunction within a disjunction, at any depth, has
been replaced by its parts. -/
inductive Spliced : Predicate → Predicate → Prop
  | all (before nested after : List Predicate) :
      Spliced (.all (before ++ .all nested :: after)) (.all (before ++ nested ++ after))
  | any (before nested after : List Predicate) :
      Spliced (.any (before ++ .any nested :: after)) (.any (before ++ nested ++ after))
  | not {p q : Predicate} (part : Spliced p q) : Spliced (.not p) (.not q)
  | inAll (before after : List Predicate) {p q : Predicate} (part : Spliced p q) :
      Spliced (.all (before ++ p :: after)) (.all (before ++ q :: after))
  | inAny (before after : List Predicate) {p q : Predicate} (part : Spliced p q) :
      Spliced (.any (before ++ p :: after)) (.any (before ++ q :: after))

/-- A scan may be spliced into one for the same value. -/
theorem scan_spliced (s : Scene) (stop : Bool) {p : Predicate} {nested : List Predicate}
    (h : p.evaluation s = scan stop (evaluations s nested)) (before after : List Predicate) :
    scan stop (evaluations s (before ++ nested ++ after)) =
      scan stop (evaluations s (before ++ p :: after)) := by
  simp only [evaluations_eq_map, List.append_assoc, List.map_append, List.map_cons] at h ⊢
  rw [h]
  exact Evaluation.scan_append_congr (Evaluation.scan_append stop _ _) _

/-- A nested part replaced by its own parts changes neither the value nor what is asked. -/
theorem Spliced.evaluation_eq {p q : Predicate} (h : Spliced p q) (s : Scene) :
    q.evaluation s = p.evaluation s := by
  induction h with
  | all before nested after => exact scan_spliced s false rfl before after
  | any before nested after => exact scan_spliced s true rfl before after
  | not _ ih => exact congrArg Evaluation.negate ih
  | inAll before after _ ih => simp only [evaluation, evaluations_eq_map, List.map_append,
      List.map_cons, ih]
  | inAny before after _ ih => simp only [evaluation, evaluations_eq_map, List.map_append,
      List.map_cons, ih]

/-- Any number of such replacements changes neither the value nor what is asked. -/
theorem evaluation_eq_of_spliced {p q : Predicate} (h : Relation.ReflTransGen Spliced p q)
    (s : Scene) : q.evaluation s = p.evaluation s := by
  induction h with
  | refl => rfl
  | tail _ hstep ih => exact (hstep.evaluation_eq s).trans ih

/-- Pushing every negation down to the leaves gives the same truth value and asks the same leaves,
each as often and in the same order, and so does splicing conjunctions into conjunctions and
disjunctions into disjunctions, any number of times. The notes that leaves leave when they are
asked show in either case which were. -/
theorem evaluation_of_pushed_and_spliced (p : Predicate) (s : Scene) :
    p.eval s = (p.evaluation s).seen s ∧
    (p.pushed false).NegatesLeaves ∧
    (p.pushed false).evaluation s = p.evaluation s ∧
    (p.pushed false).eval s = p.eval s ∧
    ∀ q, Relation.ReflTransGen Spliced p q →
      q.evaluation s = p.evaluation s ∧ q.eval s = p.eval s := by
  have hpushed : (p.pushed false).evaluation s = p.evaluation s := evaluation_pushed s false p
  refine ⟨eval_eq_seen s p, negatesLeaves_pushed false p, hpushed, ?_, fun q hq ↦ ?_⟩
  · rw [eval_eq_seen, eval_eq_seen, hpushed]
  · have hspliced := evaluation_eq_of_spliced hq s
    exact ⟨hspliced, by rw [eval_eq_seen, eval_eq_seen, hspliced]⟩

/-- Not (true, ready, and (not paused, due, late)), with an empty conjunction for true and ready
negated twice. -/
def idle : Predicate :=
  .not (.all [.all [], .not (.not (asking "ready" true)),
    .all [.not (asking "paused" false), asking "due" false, asking "late" true]])

/-- The conjunctions of `idle` made one. -/
def idleSpliced : Predicate :=
  .not (.all [.not (.not (asking "ready" true)), .not (asking "paused" false), asking "due" false,
    asking "late" true])

theorem idle_spliced : Relation.ReflTransGen Spliced idle idleSpliced := by
  have hempty := Spliced.not (.all [] [] [.not (.not (asking "ready" true)),
    .all [.not (asking "paused" false), asking "due" false, asking "late" true]])
  have hnested := Spliced.not (.all [.not (.not (asking "ready" true))]
    [.not (asking "paused" false), asking "due" false, asking "late" true] [])
  exact .tail (.single hempty) hnested

/-- The evaluation of `idle` with its negations pushed and its conjunctions made one. -/
theorem evaluation_of_pushed_and_spliced_idle :
    let s : Scene := ⟨.background none, { object := ⟨"Lease", { name := "a" }, ∅, ""⟩ }, ⟨0⟩, {}⟩
    idle.eval s = (true, [.step "ready", .step "paused", .step "due"]) ∧
      (idle.pushed false).eval s = idle.eval s ∧ (idle.pushed false).NegatesLeaves ∧
      idleSpliced.evaluation s = idle.evaluation s ∧ idleSpliced.eval s = idle.eval s := by
  intro s
  obtain ⟨-, hnegates, -, hpushed, hspliced⟩ := evaluation_of_pushed_and_spliced idle s
  exact ⟨rfl, hpushed, hnegates, hspliced idleSpliced idle_spliced⟩

end Predicate

end ControlLoop
