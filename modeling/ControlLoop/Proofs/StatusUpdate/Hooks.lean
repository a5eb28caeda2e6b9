import ControlLoop.Proofs.StatusUpdate.Building
import ControlLoop.Proofs.Store.Atomicity

/-!
# The hooks of a status update

An application changes the conditions, writes once, and responds to the answer. After a write that
succeeds the success hook is called, or without one the success signal is the reply. After one that
fails the wrapper is called on the error, and then the error hook on what the wrapper made of it, or
without a hook an error is logged and the failure signal is the reply. That is all: what an
application does is told as a list of deeds, each of which leads from one world to the next.

Wrapper and hooks are acts of any kind. What they leave alone changes only by the other deeds.
-/

namespace ControlLoop

/-- Whether the entry tells of an error. -/
def LogEntry.isError (e : LogEntry) : Bool :=
  match e.line with
  | .event .error _ _ => true
  | _ => false

namespace World

variable (w : World)

/-- The errors on the log. -/
def errors : List LogEntry := w.log.filter LogEntry.isError

theorem errors_logged (entry : LogEntry) :
    (w.logged entry).errors = w.errors ++ [entry].filter LogEntry.isError :=
  List.filter_append w.log [entry]

/-- A write logs no error, whatever it answers. -/
theorem errors_afterWrite (o : Object) : (w.afterWrite o).errors = w.errors := by
  rw [errors, afterWrite, List.filter_append]
  cases (w.store.update o).1 with
  | ok written => exact List.append_nil _
  | error e => exact List.append_nil _

end World

namespace StatusUpdate

/-- What is done in the course of an application. -/
inductive Deed where
  | log (entry : LogEntry)
  | write (o : Object) (answer : Except Error Object)
  | wrap (e wrapped : Error)
  | onError (ctx : Context) (e : Error) (answer : Signal × Context)
  | onSuccess (ctx : Context) (answer : Signal × Context)

namespace Deed

/-- The errors that the application itself logs. -/
def errors : Deed → List LogEntry
  | .log entry => [entry].filter LogEntry.isError
  | .write _ _ | .wrap _ _ | .onError _ _ _ | .onSuccess _ _ => []

/-- What the application itself does to the store. -/
def changeStore (s : Store) : Deed → Store
  | .write o _ => (s.update o).2
  | .log _ | .wrap _ _ | .onError _ _ _ | .onSuccess _ _ => s

end Deed

variable (u : StatusUpdate) (span : Option Span) (m : Moment)

/-- How a deed leads from one world to the next. -/
inductive Does : Deed → World → World → Prop
  | log (entry : LogEntry) (w : World) : Does (.log entry) w (w.logged entry)
  | write (o : Object) (w : World) : Does (.write o (w.store.update o).1) w (w.afterWrite o)
  | wrap (e : Error) (w : World) : Does (.wrap e (u.wrapper e m w).1) w (u.wrapper e m w).2
  | onError (hook : ErrorHook) (hhook : u.onError = some hook) (ctx : Context) (e : Error)
    (w : World) : Does (.onError ctx e (hook span ctx e m w).1) w (hook span ctx e m w).2
  | onSuccess (hook : SuccessHook) (hhook : u.onSuccess = some hook) (ctx : Context) (w : World) :
    Does (.onSuccess ctx (hook span ctx m w).1) w (hook span ctx m w).2

/-- The deeds lead, one after the other, from one world to another. -/
inductive Leads : List Deed → World → World → Prop
  | nil (w : World) : Leads [] w w
  | cons {d : Deed} {ds : List Deed} {w x y : World} (first : u.Does span m d w x)
    (rest : Leads ds x y) : Leads (d :: ds) w y

/-- The wrapper and the hooks leave a part of the world as they find it. -/
structure HooksKeep {σ : Type} (part : World → σ) : Prop where
  wrapper : ∀ e m w, part (u.wrapper e m w).2 = part w
  onError : ∀ hook, u.onError = some hook →
    ∀ ctx e m w, part (hook span ctx e m w).2 = part w
  onSuccess : ∀ hook, u.onSuccess = some hook →
    ∀ ctx m w, part (hook span ctx m w).2 = part w

/-- The message under which the failure to write an object of some kind is logged. -/
def failureMessage (kind : String) : String :=
  u.logMessage.getD ("Error updating status for " ++ kind)

/-- What is done after a write of `object` with some answer, and the reply. -/
inductive Ends (ctx : Context) (state : State) (object : Object) :
    Except Error Object → List Deed → Reply → Prop
  | success (written : Object) (hhook : u.onSuccess = none) :
    Ends ctx state object (.ok written) [] ⟨u.successSignal, ctx, { state with object := written }⟩
  | successHook (written : Object) (hhook : u.onSuccess.isSome) (signal : Signal) (ctx' : Context) :
    Ends ctx state object (.ok written) [.onSuccess ctx (signal, ctx')]
      ⟨signal, ctx', { state with object := written }⟩
  | failure (e wrapped : Error) (hhook : u.onError = none) :
    Ends ctx state object (.error e)
      [.wrap e wrapped,
        .log (.failed (u.failureMessage object.kind) wrapped ctx.fields u.failedSignal)]
      ⟨u.failedSignal, ctx, { state with object }⟩
  | failureHook (e wrapped : Error) (hhook : u.onError.isSome) (signal : Signal) (ctx' : Context) :
    Ends ctx state object (.error e) [.wrap e wrapped, .onError ctx wrapped (signal, ctx')]
      ⟨signal, ctx', { state with object }⟩

section

variable {u span m} {d : Deed} {ds es : List Deed} {w x y : World}

theorem Does.errors (hu : u.HooksKeep span World.errors) (h : u.Does span m d w x) :
    x.errors = w.errors ++ d.errors := by
  cases h with
  | log entry => exact w.errors_logged entry
  | write o => exact (w.errors_afterWrite o).trans (List.append_nil _).symm
  | wrap e => exact (hu.wrapper e m w).trans (List.append_nil _).symm
  | onError hook hhook ctx e =>
    exact (hu.onError hook hhook ctx e m w).trans (List.append_nil _).symm
  | onSuccess hook hhook ctx =>
    exact (hu.onSuccess hook hhook ctx m w).trans (List.append_nil _).symm

theorem Does.store (hu : u.HooksKeep span World.store) (h : u.Does span m d w x) :
    x.store = d.changeStore w.store := by
  cases h with
  | log entry => rfl
  | write o => rfl
  | wrap e => exact hu.wrapper e m w
  | onError hook hhook ctx e => exact hu.onError hook hhook ctx e m w
  | onSuccess hook hhook ctx => exact hu.onSuccess hook hhook ctx m w

namespace Leads

theorem one (h : u.Does span m d w x) : u.Leads span m [d] w x := .cons h (.nil x)

/-- Deeds that lead to one world, and others from there, lead on one after the other. -/
theorem trans (h : u.Leads span m ds w x) (hes : u.Leads span m es x y) :
    u.Leads span m (ds ++ es) w y := by
  induction h with
  | nil w => exact hes
  | cons first rest ih => exact .cons first (ih hes)

/-- If the hooks log no errors, those on the log are the ones that the deeds have logged. -/
theorem errors (hu : u.HooksKeep span World.errors) (h : u.Leads span m ds w x) :
    x.errors = w.errors ++ ds.flatMap Deed.errors := by
  induction h with
  | nil w => exact (List.append_nil _).symm
  | cons first rest ih => rw [ih, first.errors hu, List.flatMap_cons, List.append_assoc]

/-- If the hooks leave the store, it has changed by the writes only. -/
theorem store (hu : u.HooksKeep span World.store) (h : u.Leads span m ds w x) :
    x.store = ds.foldl Deed.changeStore w.store := by
  induction h with
  | nil w => rfl
  | cons first rest ih => rw [ih, first.store hu, List.foldl_cons]

end Leads

end

section

variable {u} {ctx : Context} {state : State} {object : Object} {answer : Except Error Object}
  {deeds : List Deed} {reply : Reply}

end

section

variable {u span m} {o object : Object} {w : World}

end

variable (w : World) (ctx : Context) (state : State) (object : Object)

/-- The hook that a call gives, if it gives one, leaves a part of the world as it finds it. -/
def Call.Keeps {σ : Type} (part : World → σ) : Call → Prop
  | .wrapper f => ∀ e m w, part (f e m w).2 = part w
  | .onError hook => ∀ ctx e m w, part (hook span ctx e m w).2 = part w
  | .onSuccess hook => ∀ ctx m w, part (hook span ctx m w).2 = part w
  | _ => True

namespace Options

variable {span} {σ : Type} {part : World → σ}

/-- The hooks of an update keep what the calls that gave them keep. -/
theorem hooksKeep_of_build {o : Options} {u : StatusUpdate} (h : o.build = .ok u)
    (hkeep : ∀ c ∈ o.hooks, c.Keeps span part) : u.HooksKeep span part := by
  obtain ⟨hwrapper, honError, honSuccess⟩ := eq_of_build h
  constructor
  · rw [hwrapper]
    cases hf : o.wrapper with
    | none => exact fun _ _ _ ↦ rfl
    | some f => exact hkeep _ (wrapper_mem_hooks hf)
  · intro hook hhook
    exact hkeep _ (onError_mem_hooks (honError.symm.trans hhook))
  · intro hook hhook
    exact hkeep _ (onSuccess_mem_hooks (honSuccess.symm.trans hhook))

end Options

end StatusUpdate

namespace Script

variable {σ : Type} {part : World → σ}

theorem ContextEffect.part_performAll (hpart : ∀ w handles, part { w with handles } = part w)
    (span : Option Span) (ctx : Context) (effects : List ContextEffect) (m : Moment) (w : World) :
    part (performAll span ctx effects m w).2 = part w := by
  induction effects generalizing ctx w with
  | nil => rfl
  | cons e es ih =>
    have hperform : part (e.perform span ctx m w).2 = part w := by
      cases e with
      | background | field | timeout | deadline | span => rfl
      | cancellation handle => exact hpart w _
    have hcons : performAll span ctx (e :: es) m w =
        performAll span (e.perform span ctx m w).1 es m (e.perform span ctx m w).2 := rfl
    rw [hcons, ih, hperform]

namespace UpdateCall

variable (hhandles : ∀ w handles, part { w with handles } = part w)
  (htrail : ∀ w trail, part { w with trail } = part w)
include hhandles htrail

theorem keeps_call (span : Option Span) (c : UpdateCall) : c.call.Keeps span part := by
  cases c with
  | wrapper context replacement => exact fun e m w ↦ htrail w _
  | onError s effects =>
    exact fun ctx e m w ↦
      (ContextEffect.part_performAll hhandles span ctx effects m _).trans (htrail w _)
  | onSuccess s effects =>
    exact fun ctx m w ↦
      (ContextEffect.part_performAll hhandles span ctx effects m _).trans (htrail w _)
  | set | keepOnly | keepAll | logMessage | failedSignal | successSignal => trivial

/-- The hooks of a script leave notes and make handles, and keep everything else. -/
theorem hooksKeep_of_build (span : Option Span) {calls : List UpdateCall} {u : StatusUpdate}
    (h : (options calls).build = .ok u) : u.HooksKeep span part := by
  refine StatusUpdate.Options.hooksKeep_of_build h fun c hc ↦ ?_
  obtain ⟨call, -, rfl⟩ := List.mem_map.1 (StatusUpdate.Options.hooks_ofCalls_subset _ hc)
  exact keeps_call hhandles htrail span call

end UpdateCall

end Script

end ControlLoop
