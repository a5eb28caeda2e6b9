import ControlLoop.Run.Combine

/-!
# Sessions

A session is a world with a clock that moves only by being advanced and by waiting. It proceeds in
turns; a report on a turn has what was added to the trail and the log since the report before.
-/

namespace ControlLoop

structure Session where
  now : Instant := .start
  turn : Nat := 0
  world : World := {}

/-- What a turn left behind, and the time since the session started. -/
structure TurnReport where
  trail : List Note
  log : List LogEntry
  elapsed : Duration

namespace Session

variable (s : Session) {α : Type}

def moment : Moment := ⟨s.now, .read s.turn⟩

def act (a : Act α) : α × Session :=
  let (value, world) := a s.moment s.world
  (value, { s with world })

/-- Runs to the end; nothing if the run waits for what never comes. -/
def settle (r : Run α) : Option (α × Session) := do
  let (value, world, now) ← r.settle s.moment s.world
  return (value, { s with world, now })

def advance (d : Duration) : Session := { s with now := s.now.after d }

/-- The session at the start of the next turn. -/
def nextTurn : Session := { s with turn := s.turn + 1 }

def changeStore (change : Store → Store) : Session :=
  { s with world := { s.world with store := change s.world.store } }

def report : TurnReport × Session :=
  ({ trail := s.world.trail, log := s.world.log, elapsed := s.now.elapsed },
    { s with world := { s.world with trail := [], log := [] } })

def ofObjects (objects : List Object) : Session :=
  { world := { store := .ofList objects } }

end Session

end ControlLoop
