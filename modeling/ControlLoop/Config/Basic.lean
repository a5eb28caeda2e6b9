import ControlLoop.Config.Backoff

/-!
# Configuration

Delays of the loop, each with a default, and the conditions under which they make sense.
-/

namespace ControlLoop

structure Config where
  requeueDelay : UInt64
  passTimeout : Option UInt64
  backoff : Backoff
deriving DecidableEq

inductive ConfigError where
  | invalid (reason : String)
  | unreadable (path reason : String)
  | malformed (reason : String)
  | telemetry (reason : String)
deriving DecidableEq

namespace ConfigError

def message : ConfigError → String
  | .invalid reason => "invalid configuration: " ++ reason
  | .unreadable path reason => "failed to read config file " ++ path ++ ": " ++ reason
  | .malformed reason => "failed to parse config: " ++ reason
  | .telemetry reason => "failed to initialize telemetry: " ++ reason

end ConfigError

namespace Backoff

def validate (b : Backoff) : Except ConfigError Unit :=
  if b.initial = 0 then .error (.invalid "backoff.initial_ms must be > 0")
  else if b.max < b.initial then
    .error (.invalid "backoff.max_ms must be >= backoff.initial_ms")
  else if !b.multiplier.isFinite || b.multiplier.less Binary64.one then
    .error (.invalid "backoff.multiplier must be a finite number >= 1.0")
  else .ok ()

end Backoff

namespace Config

def default : Config := ⟨30000, none, Backoff.default⟩

variable (c : Config)

def requeueAfter : Duration := .ofMillis c.requeueDelay.toNat

def passLimit : Option Duration := c.passTimeout.map fun n ↦ .ofMillis n.toNat

/-- The first value that is out of range is reported. -/
def validate : Except ConfigError Unit :=
  if c.passTimeout = some 0 then .error (.invalid "pass_timeout_ms must be > 0 when set")
  else c.backoff.validate

end Config

end ControlLoop
