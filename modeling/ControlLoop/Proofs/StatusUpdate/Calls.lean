import ControlLoop.Proofs.Action.Visit
import ControlLoop.StatusUpdate.Builder
import Mathlib.Data.List.Induction

/-!
# What a list of calls builds

The order of the calls that describe an update decides nothing but the order of its conditions and
which of several hooks, signals or messages is the last. So what a list of calls amounts to is told
without following it from call to call: the conditions one after the other, the union of the types
to keep, whether there is a call to keep all and whether there is a list of types to keep, and of
each setting the last one given. From this the update is built, unless the calls ask for both ways
of keeping conditions.
-/

namespace ControlLoop.StatusUpdate

/-- An option of which the last call counts. -/
structure Setting (α : Type) where
  given? : Call → Option α
  value? : Options → Option α
  value?_call : ∀ o c, value? (o.call c) = (given? c).or (value? o)
  value?_empty : value? {} = none

namespace Setting

def logMessage : Setting String where
  given?
    | .logMessage message => some message
    | _ => none
  value? := Options.logMessage
  value?_call _ c := by cases c <;> rfl
  value?_empty := rfl

def wrapper : Setting ErrorWrapper where
  given?
    | .wrapper f => some f
    | _ => none
  value? := Options.wrapper
  value?_call _ c := by cases c <;> rfl
  value?_empty := rfl

def onError : Setting ErrorHook where
  given?
    | .onError hook => some hook
    | _ => none
  value? := Options.onError
  value?_call _ c := by cases c <;> rfl
  value?_empty := rfl

def onSuccess : Setting SuccessHook where
  given?
    | .onSuccess hook => some hook
    | _ => none
  value? := Options.onSuccess
  value?_call _ c := by cases c <;> rfl
  value?_empty := rfl

def failedSignal : Setting Signal where
  given?
    | .failedSignal s => some s
    | _ => none
  value? := Options.failedSignal
  value?_call _ c := by cases c <;> rfl
  value?_empty := rfl

def successSignal : Setting Signal where
  given?
    | .successSignal s => some s
    | _ => none
  value? := Options.successSignal
  value?_call _ c := by cases c <;> rfl
  value?_empty := rfl

/-- The value that the last call for the setting gives. -/
def last? {α : Type} (s : Setting α) (calls : List Call) : Option α :=
  (calls.filterMap s.given?).getLast?

end Setting

/-- The conditions that a call adds. -/
def Call.conditions : Call → List Condition
  | .set conditions => conditions
  | _ => []

abbrev Calls := List Call

namespace Calls

variable (calls others : Calls)

/-- All conditions to set, in the order of the calls. -/
def conditions : List Condition := calls.flatMap Call.conditions

def KeepsOnly : Prop := ∃ types, .keepOnly types ∈ calls

def KeepsAll : Prop := .keepAll ∈ calls

/-- Whether the type is on one of the lists of types to keep. -/
def Lists (type : String) : Prop := ∃ types, .keepOnly types ∈ calls ∧ type ∈ types

def Contradicts : Prop := calls.KeepsAll ∧ calls.KeepsOnly

/-- The two lists of calls give the same conditions in the same order, the same types to keep, the
same ways of keeping conditions and the same last value of each setting. -/
structure Alike : Prop where
  conditions : calls.conditions = others.conditions
  keepsOnly : calls.KeepsOnly ↔ others.KeepsOnly
  keepsAll : calls.KeepsAll ↔ others.KeepsAll
  lists : ∀ type, calls.Lists type ↔ others.Lists type
  logMessage : Setting.logMessage.last? calls = Setting.logMessage.last? others
  wrapper : Setting.wrapper.last? calls = Setting.wrapper.last? others
  onError : Setting.onError.last? calls = Setting.onError.last? others
  onSuccess : Setting.onSuccess.last? calls = Setting.onSuccess.last? others
  failedSignal : Setting.failedSignal.last? calls = Setting.failedSignal.last? others
  successSignal : Setting.successSignal.last? calls = Setting.successSignal.last? others

/-- The update is the one that the calls describe, with the defaults for what they leave open. -/
structure Describes (u : StatusUpdate) : Prop where
  conditions : u.conditions = calls.conditions
  keepAll : calls.KeepsAll → u.retention = .keepAll
  keepOnly : ¬ calls.KeepsAll →
    ∃ types, u.retention = .keepOnly types ∧ ∀ type, type ∈ types ↔ calls.Lists type
  logMessage : u.logMessage = Setting.logMessage.last? calls
  wrapper : u.wrapper = (Setting.wrapper.last? calls).getD pure
  onError : u.onError = Setting.onError.last? calls
  onSuccess : u.onSuccess = Setting.onSuccess.last? calls
  failedSignal : u.failedSignal = (Setting.failedSignal.last? calls).getD (.requeue none)
  successSignal : u.successSignal = (Setting.successSignal.last? calls).getD .forget

end Calls

namespace Options

section

variable (o : Options) (c : Call)

theorem conditions_call : (o.call c).conditions = o.conditions ++ c.conditions := by
  cases c with
  | set conditions => rfl
  | _ => exact (List.append_nil _).symm

theorem keepsOnly_call :
    (o.call c).keepsOnly = true ↔ o.keepsOnly = true ∨ ∃ types, c = .keepOnly types := by
  cases c <;> simp [call]

theorem keepsAll_call : (o.call c).keepsAll = true ↔ o.keepsAll = true ∨ c = .keepAll := by
  cases c <;> simp [call]

theorem mem_kept_call (type : String) :
    type ∈ (o.call c).kept ↔ type ∈ o.kept ∨ ∃ types, c = .keepOnly types ∧ type ∈ types := by
  cases c <;> simp [call, Std.ExtTreeSet.mem_insertMany_list]

end

variable (calls others : Calls)

/-- The last call is made on the options that the others have set. -/
theorem ofCalls_concat (c : Call) : ofCalls (calls ++ [c]) = (ofCalls calls).call c := by
  rw [ofCalls, List.foldl_append]
  rfl

/-- The conditions are those of all calls, in order. -/
theorem conditions_ofCalls : (ofCalls calls).conditions = calls.conditions := by
  induction calls using List.reverseRecOn with
  | nil => rfl
  | append_singleton calls c ih =>
    rw [ofCalls_concat, conditions_call, ih, Calls.conditions, Calls.conditions,
      List.flatMap_append, List.flatMap_singleton]

/-- The options keep only listed types if a call says so. -/
theorem keepsOnly_ofCalls : (ofCalls calls).keepsOnly = true ↔ calls.KeepsOnly := by
  induction calls using List.reverseRecOn with
  | nil => simp [ofCalls, Calls.KeepsOnly]
  | append_singleton calls c ih =>
    rw [ofCalls_concat, keepsOnly_call, ih]
    simp [Calls.KeepsOnly, exists_or, eq_comm]

theorem keepsAll_ofCalls : (ofCalls calls).keepsAll = true ↔ calls.KeepsAll := by
  induction calls using List.reverseRecOn with
  | nil => simp [ofCalls, Calls.KeepsAll]
  | append_singleton calls c ih =>
    rw [ofCalls_concat, keepsAll_call, ih]
    simp [Calls.KeepsAll, eq_comm]

/-- A type is kept by name if a call lists it. -/
theorem mem_kept_ofCalls (type : String) : type ∈ (ofCalls calls).kept ↔ calls.Lists type := by
  induction calls using List.reverseRecOn with
  | nil => simp [ofCalls, Calls.Lists]
  | append_singleton calls c ih =>
    rw [ofCalls_concat, mem_kept_call, ih]
    simp [Calls.Lists, or_and_right, exists_or, eq_comm]

/-- A setting has the value of the last call that sets it. -/
theorem value?_ofCalls {α : Type} (s : Setting α) : s.value? (ofCalls calls) = s.last? calls := by
  induction calls using List.reverseRecOn with
  | nil => exact s.value?_empty
  | append_singleton calls c ih =>
    rw [ofCalls_concat, s.value?_call, ih, Setting.last?, Setting.last?, List.filterMap_append,
      List.getLast?_append]
    cases hgiven : s.given? c <;> simp [hgiven]

end Options

namespace Calls

variable {calls others : Calls} {u v : StatusUpdate}

theorem Alike.contradicts_iff (h : calls.Alike others) :
    calls.Contradicts ↔ others.Contradicts :=
  and_congr h.keepsAll h.keepsOnly

theorem Alike.describes (h : calls.Alike others) (hu : calls.Describes u) :
    others.Describes u where
  conditions := hu.conditions.trans h.conditions
  keepAll hall := hu.keepAll (h.keepsAll.2 hall)
  keepOnly hall := by
    obtain ⟨types, hretention, hlists⟩ := hu.keepOnly (mt h.keepsAll.1 hall)
    exact ⟨types, hretention, fun type ↦ (hlists type).trans (h.lists type)⟩
  logMessage := hu.logMessage.trans h.logMessage
  wrapper := by rw [hu.wrapper, h.wrapper]
  onError := hu.onError.trans h.onError
  onSuccess := hu.onSuccess.trans h.onSuccess
  failedSignal := by rw [hu.failedSignal, h.failedSignal]
  successSignal := by rw [hu.successSignal, h.successSignal]

/-- Calls describe one retention. -/
theorem Describes.retention_eq (hu : calls.Describes u) (hv : calls.Describes v) :
    u.retention = v.retention := by
  by_cases hall : calls.KeepsAll
  · rw [hu.keepAll hall, hv.keepAll hall]
  · obtain ⟨types, hretention, hlists⟩ := hu.keepOnly hall
    obtain ⟨types', hretention', hlists'⟩ := hv.keepOnly hall
    have htypes : types = types' :=
      Std.ExtTreeSet.ext_mem fun type ↦ (hlists type).trans (hlists' type).symm
    rw [hretention, hretention', htypes]

/-- A list of calls leaves nothing open about the update that it describes. -/
theorem Describes.eq (hu : calls.Describes u) (hv : calls.Describes v) : u = v := by
  have hretention := hu.retention_eq hv
  have hwrapper := hu.wrapper.trans hv.wrapper.symm
  have hfailed := hu.failedSignal.trans hv.failedSignal.symm
  have hsuccess := hu.successSignal.trans hv.successSignal.symm
  have hconditions := hu.conditions.trans hv.conditions.symm
  have hmessage := hu.logMessage.trans hv.logMessage.symm
  have honError := hu.onError.trans hv.onError.symm
  have honSuccess := hu.onSuccess.trans hv.onSuccess.symm
  cases u
  cases v
  congr

end Calls

namespace Options

variable {calls others : Calls}

/-- Calls that contradict each other build nothing. -/
theorem build_of_contradicts (h : calls.Contradicts) :
    (ofCalls calls).build = .error retentionConflict := by
  have hall := (keepsAll_ofCalls calls).2 h.1
  have honly := (keepsOnly_ofCalls calls).2 h.2
  rw [build, hall, honly]
  rfl

/-- Calls that do not contradict each other build an update that they describe. -/
theorem exists_build_of_not_contradicts (h : ¬ calls.Contradicts) :
    ∃ u, (ofCalls calls).build = .ok u ∧ calls.Describes u := by
  have hboth : ((ofCalls calls).keepsAll && (ofCalls calls).keepsOnly) = false := by
    rw [Bool.eq_false_iff, ne_eq, Bool.and_eq_true, keepsAll_ofCalls, keepsOnly_ofCalls]
    exact h
  refine ⟨_, by rw [build, hboth]; rfl, ?_⟩
  constructor
  · exact conditions_ofCalls calls
  · intro hall
    exact if_pos ((keepsAll_ofCalls calls).2 hall)
  · intro hall
    refine ⟨(ofCalls calls).kept, if_neg (mt (keepsAll_ofCalls calls).1 hall), ?_⟩
    exact mem_kept_ofCalls calls
  · exact value?_ofCalls calls .logMessage
  · exact congrArg (Option.getD · pure) (value?_ofCalls calls .wrapper)
  · exact value?_ofCalls calls .onError
  · exact value?_ofCalls calls .onSuccess
  · exact congrArg (Option.getD · (.requeue none)) (value?_ofCalls calls .failedSignal)
  · exact congrArg (Option.getD · .forget) (value?_ofCalls calls .successSignal)

/-- What calls build is what they describe, if they do not contradict each other. -/
theorem build_eq_ok_iff {u : StatusUpdate} :
    (ofCalls calls).build = .ok u ↔ ¬ calls.Contradicts ∧ calls.Describes u := by
  constructor
  · intro hbuild
    have hfree : ¬ calls.Contradicts := by
      intro hcontradicts
      rw [build_of_contradicts hcontradicts] at hbuild
      cases hbuild
    obtain ⟨v, hv, hdescribes⟩ := exists_build_of_not_contradicts hfree
    rw [hbuild] at hv
    cases hv
    exact ⟨hfree, hdescribes⟩
  · rintro ⟨hfree, hu⟩
    obtain ⟨v, hv, hdescribes⟩ := exists_build_of_not_contradicts hfree
    rw [hv, hdescribes.eq hu]

/-- The only error of a build is that its calls contradict each other. -/
theorem build_eq_error_iff {e : Error} :
    (ofCalls calls).build = .error e ↔ calls.Contradicts ∧ e = retentionConflict := by
  constructor
  · intro hbuild
    by_cases hcontradicts : calls.Contradicts
    · rw [build_of_contradicts hcontradicts] at hbuild
      cases hbuild
      exact ⟨hcontradicts, rfl⟩
    · obtain ⟨u, hu, -⟩ := exists_build_of_not_contradicts hcontradicts
      rw [hu] at hbuild
      cases hbuild
  · rintro ⟨hcontradicts, rfl⟩
    exact build_of_contradicts hcontradicts

theorem build_eq_of_alike (h : calls.Alike others) :
    (ofCalls others).build = (ofCalls calls).build := by
  cases hbuild : (ofCalls calls).build with
  | error e =>
    obtain ⟨hcontradicts, rfl⟩ := build_eq_error_iff.1 hbuild
    exact build_of_contradicts (h.contradicts_iff.1 hcontradicts)
  | ok u =>
    obtain ⟨hfree, hu⟩ := build_eq_ok_iff.1 hbuild
    exact build_eq_ok_iff.2 ⟨mt h.contradicts_iff.2 hfree, h.describes hu⟩

/-- Options run as the update that they build, or log the error and propagate it. -/
theorem run_eq (o : Options) (span : Option Span) (ctx : Context) (state : State) (m : Moment)
    (w : World) :
    o.run span ctx state m w =
      match o.build with
      | .ok u => u.apply span ctx state m w
      | .error e =>
        (⟨.propagate e, ctx, state⟩,
          w.logged (.failed "Invalid status update" e ctx.fields (.propagate e))) := by
  unfold run
  cases o.build with
  | ok u => rfl
  | error e => rfl

/-- Building fails exactly if both ways of keeping conditions are asked for, however often and in
whatever order, and otherwise gives the update that the calls describe, which is the same for lists
of calls that are alike. Running is building and applying; a failure to build is logged and
propagated, and changes nothing else. -/
theorem build_and_run_ofCalls (calls : Calls) :
    (∀ u, (ofCalls calls).build = .ok u ↔ ¬ calls.Contradicts ∧ calls.Describes u) ∧
      (∀ e, (ofCalls calls).build = .error e ↔ calls.Contradicts ∧ e = retentionConflict) ∧
      (∀ others, calls.Alike others → (ofCalls others).build = (ofCalls calls).build) ∧
      ∀ span ctx state m w, (ofCalls calls).run span ctx state m w =
        match (ofCalls calls).build with
        | .ok u => u.apply span ctx state m w
        | .error e =>
          (⟨.propagate e, ctx, state⟩,
            w.logged (.failed "Invalid status update" e ctx.fields (.propagate e))) :=
  ⟨fun _ ↦ build_eq_ok_iff, fun _ ↦ build_eq_error_iff, fun _ h ↦ build_eq_of_alike h,
    run_eq (ofCalls calls)⟩

/-- The same update with its conditions given one by one between other calls, and at once. -/
theorem build_and_run_ofCalls_leases :
    let ready : Condition := { type := "Ready", status := .affirmed }
    let held : Condition := { type := "Held", status := .denied }
    let scattered : Calls :=
      [.keepOnly ["Owned"], .set [ready], .failedSignal .proceed, .set [held],
        .keepOnly ["Spare", "Owned"], .failedSignal .forget]
    let gathered : Calls :=
      [.failedSignal .forget, .set [ready, held], .keepOnly ["Owned", "Spare"]]
    scattered.Alike gathered ∧ (ofCalls gathered).build = (ofCalls scattered).build := by
  intro ready held scattered gathered
  have halike : scattered.Alike gathered := by
    constructor
    case lists =>
      intro type
      simp [scattered, gathered, Calls.Lists]
      grind
    case keepsOnly | keepsAll => simp [scattered, gathered, Calls.KeepsOnly, Calls.KeepsAll]
    all_goals rfl
  exact ⟨halike, (build_and_run_ofCalls scattered).2.2.1 gathered halike⟩

end Options

end ControlLoop.StatusUpdate
