import ControlLoop.Action.Basic
import ControlLoop.Proofs.Run.Schedule

/-!
# Visits

A point is all that an action can depend on when it starts: the context and state handed to it, the
moment, the world, and what it will be resumed with. A visit is one start of an action at a point.
It stands where the action's run stands, and an action that proceeds leaves a point to its
successor.

Composers write to the trail and the log on their way, so points are also compared without these.
-/

namespace ControlLoop

structure Point where
  ctx : Context
  state : State
  moment : Moment
  world : World
  coming : Schedule

namespace World

def logged (w : World) (e : LogEntry) : World := { w with log := w.log ++ [e] }

/-- The world without what can only be read afterwards. -/
def quiet (w : World) : World := { w with trail := [], log := [] }

end World

namespace Point

def log (p : Point) (e : LogEntry) : Point := { p with world := p.world.logged e }

/-- Why the context is done at this point, if it is. -/
def error? (p : Point) : Option Error := p.ctx.error? p.moment.now p.world.handles

/-- A run that answers here at once. -/
def answer (p : Point) (s : Signal) : Standing Reply :=
  .finished ⟨s, p.ctx, p.state⟩ p.moment p.world p.coming

/-- The point but for the trail and the log of its world. -/
def quiet (p : Point) : Point := { p with world := p.world.quiet }

@[simp] theorem quiet_log (p : Point) (e : LogEntry) : (p.log e).quiet = p.quiet := rfl

end Point

namespace Standing

/-- The point from which a successor goes on: there is one only after an answer to proceed. -/
def next? : Standing Reply → Option Point
  | .finished reply m w rest =>
    if reply.signal.isTerminal then none else some ⟨reply.ctx, reply.state, m, w, rest⟩
  | .waiting _ _ _ => none

/-- The standing of a sequence whose action of the given name did not proceed. -/
def stoppedBy (name : String) : Standing Reply → Standing Reply
  | .finished reply m w rest => .finished reply m (w.logged (.stopped name reply.signal)) rest
  | .waiting m w u => .waiting m w u

/-- A reply lets the next action follow exactly if it proceeds. -/
theorem next?_finished_eq_none_iff {reply : Reply} {m : Moment} {w : World} {rest : Schedule} :
    (finished reply m w rest).next? = none ↔ reply.signal ≠ .proceed := by
  rw [← Signal.isTerminal_iff]
  cases h : reply.signal.isTerminal <;> simp [next?, h]

theorem next?_finished_of_proceed {reply : Reply} {m : Moment} {w : World} {rest : Schedule}
    (h : reply.signal = .proceed) :
    (finished reply m w rest).next? = some ⟨reply.ctx, reply.state, m, w, rest⟩ := by
  simp [next?, h, Signal.isTerminal]

end Standing

/-- Where an action started at a point stands in the end. -/
def Action.play (a : Action) (span : Option Span) (p : Point) : Standing Reply :=
  (a.run span p.ctx p.state).play p.moment p.world p.coming

structure Visit where
  action : Action
  span : Option Span
  start : Point

namespace Visit

def standing (v : Visit) : Standing Reply := v.action.play v.span v.start

def next? (v : Visit) : Option Point := v.standing.next?

end Visit

end ControlLoop
