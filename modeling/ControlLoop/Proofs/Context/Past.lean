import ControlLoop.Session.Contexts
import Mathlib.Order.Bounds.Defs

/-!
# What has happened to contexts

Contexts are derived from one another while handles are cancelled and dropped and time passes. What
has happened is listed with the last turn first, so that what it was before a turn is the rest of
the list. The list tells on which handles a cancel was called, by which path a context descends from
others, and which deadlines were set on that path, all of it without a look at tokens or flags.
-/

namespace ControlLoop

open Script (ContextEffect)

inductive ContextTurn where
  /-- Makes a context from the one of a number, or from the background if there is none. -/
  | derive (parent : Nat) (effect : ContextEffect)
  | use (u : HandleUse)
  | advance (d : Duration)

/-- What has happened, with the last turn first. -/
abbrev ContextPast := List ContextTurn

/-- A session with the contexts made in it, which are numbered in their order. -/
structure Family where
  session : Session
  contexts : List Context

namespace Family

variable (f : Family)

def parent (number : Nat) : Context := f.contexts[number]?.getD (.background none)

def step : ContextTurn → Family
  | .derive parent effect =>
    let (ctx, session) := f.session.act (effect.perform none (f.parent parent))
    ⟨session, f.contexts ++ [ctx]⟩
  | .use u => { f with session := (f.session.act u.perform).2 }
  | .advance d => { f with session := f.session.advance d }

/-- The family after the turns of a past. -/
def after (s : Session) : ContextPast → Family
  | [] => ⟨s, []⟩
  | turn :: past => (after s past).step turn

/-- Why a context of the family is done, if it is. -/
def error? (ctx : Context) : Option Error :=
  ctx.error? f.session.now f.session.world.handles

end Family

namespace ContextPast

/-- How many contexts have been made. -/
def made : ContextPast → Nat
  | [] => 0
  | .derive _ _ :: past => made past + 1
  | .use _ :: past => made past
  | .advance _ :: past => made past

/-- The number of the context that was made with the handle that is held under the name. -/
def holder? (name : String) : ContextPast → Option Nat
  | [] => none
  | .derive _ effect :: past =>
    match effect with
    | .cancellation handle => if handle = name then some (made past) else holder? name past
    | _ => holder? name past
  | .use (.cancel _) :: past => holder? name past
  | .use (.drop handle) :: past => if handle = name then none else holder? name past
  | .advance _ :: past => holder? name past

/-- A cancel was called on the handle that was made with the context of the number. -/
def Revoked (number : Nat) : ContextPast → Prop
  | [] => False
  | .derive _ _ :: past => Revoked number past
  | .use (.cancel handle) :: past => holder? handle past = some number ∨ Revoked number past
  | .use (.drop _) :: past => Revoked number past
  | .advance _ :: past => Revoked number past

end ContextPast

/-- One step of descent: the context of the number was made by the effect in the session. -/
structure Derivation where
  number : Nat
  effect : ContextEffect
  session : Session

namespace Derivation

variable (d : Derivation)

/-- The deadline that the step adds, if it adds one that the clock can show. -/
def due? : Option Instant :=
  match d.effect with
  | .deadline due => some due
  | .timeout limit => d.session.now.after? limit
  | _ => none

def token? : Option CancelToken :=
  match d.effect with
  | .cancellation handle => some (d.session.world.handles.nextToken handle)
  | _ => none

/-- The path of descent that the step ends, given the path of the context it starts from. A
background context has no past. -/
def onto (path : List Derivation) : List Derivation :=
  match d.effect with
  | .background => [d]
  | _ => d :: path

/-- The deadlines set on a path of descent. -/
def dues (path : List Derivation) : Set Instant := { due | ∃ d ∈ path, d.due? = some due }

end Derivation

namespace ContextPast

/-- The path by which the context of the number has come to be, from its last step back. -/
def path (s : Session) : ContextPast → Nat → List Derivation
  | [], _ => []
  | .derive parent effect :: past, number =>
    if number = made past then
      Derivation.onto ⟨made past, effect, (Family.after s past).session⟩ (path s past parent)
    else path s past number
  | .use _ :: past, number => path s past number
  | .advance _ :: past, number => path s past number

end ContextPast

end ControlLoop
