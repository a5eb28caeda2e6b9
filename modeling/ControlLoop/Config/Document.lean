import ControlLoop.Config.Basic
import ControlLoop.Toml.Reader

/-!
# Configuration documents

A configuration is written as a TOML document. Every field has a default, other keys are ignored,
and a table may be given as an array of its values in order. What the reader of the document says
about a malformed one is not part of the configuration: `wording` stands for it.
-/

namespace ControlLoop

/-- What is found at the path of a configuration file. -/
inductive ConfigFile where
  | missing
  | directory
  | content (bytes : ByteArray)

namespace Config

/-- A field of a table, given by name or by position. -/
def field? (name : String) (index : Nat) : Toml → Option (Option Toml)
  | .table _ members => some (Toml.member? name members)
  | .array items | .tables items => some items[index]?
  | _ => none

def decodeWord : Toml → Option UInt64
  | .integer n => if 0 ≤ n ∧ n < UInt64.size then some (.ofNat n.toNat) else none
  | _ => none

/-- A float, or an integer of at most 64 bits as the nearest float. -/
def decodeFactor : Toml → Option Binary64
  | .float x => some x
  | .integer n =>
    if Int64.minValue.toInt ≤ n ∧ n < UInt64.size then
      some (Binary64.ofRatio (n < 0) (n.natAbs * Binary64.unitsOfOne) 1)
    else none
  | _ => none

def orDefault {α : Type} (default : α) (decode : Toml → Option α) : Option Toml → Option α
  | none => some default
  | some t => decode t

def decodeBackoff (t : Toml) : Option Backoff := do
  let b := Backoff.default
  return {
    initial := ← orDefault b.initial decodeWord (← field? "initial_ms" 0 t)
    max := ← orDefault b.max decodeWord (← field? "max_ms" 1 t)
    multiplier := ← orDefault b.multiplier decodeFactor (← field? "multiplier" 2 t) }

def decode (t : Toml) : Option Config := do
  let c := Config.default
  return {
    requeueDelay := ← orDefault c.requeueDelay decodeWord (← field? "requeue_delay_ms" 0 t)
    passTimeout :=
      ← orDefault c.passTimeout (fun t ↦ some <$> decodeWord t) (← field? "pass_timeout_ms" 1 t)
    backoff := ← orDefault c.backoff decodeBackoff (← field? "backoff" 2 t) }

def ofDocument (wording text : String) : Except ConfigError Config := do
  match (Toml.parse? text).bind decode with
  | none => throw (.malformed wording)
  | some c =>
    c.validate
    return c

def load (wording path : String) : ConfigFile → Except ConfigError Config
  | .missing => .error (.unreadable path "No such file or directory (os error 2)")
  | .directory => .error (.unreadable path "Is a directory (os error 21)")
  | .content bytes =>
    match String.fromUTF8? bytes with
    | none => .error (.unreadable path "stream did not contain valid UTF-8")
    | some text => ofDocument (path ++ ": " ++ wording) text

end Config

end ControlLoop
