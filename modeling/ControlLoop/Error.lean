/-!
# Why a step or a pass fails

An error may be wrapped in further context any number of times. What it is at its root decides
whether another pass may succeed.
-/

namespace ControlLoop

inductive Error where
  | statusUpdateFailed (object reason : String)
  | conflict (object : String) (expected actual : UInt64)
  | objectNotFound (object : String)
  | stepFailed (step reason : String)
  | stateInit (reason : String)
  | cancelled
  | deadlineExceeded
  | invalidConfig (reason : String)
  | wrapped (context : String) (source : Error)
deriving DecidableEq

namespace Error

def wrap (e : Error) (context : String) : Error := .wrapped context e

/-- The error inside the given contexts, the first one innermost. -/
def wrapAll (e : Error) (contexts : List String) : Error := contexts.foldl wrap e

def rootCause : Error → Error
  | .wrapped _ source => source.rootCause
  | e => e

/-- Whether the error is one that another pass may overcome. -/
def isRetryable (e : Error) : Bool :=
  match e.rootCause with
  | .statusUpdateFailed _ _ | .conflict _ _ _ | .stepFailed _ _ | .deadlineExceeded => true
  | _ => false

def message : Error → String
  | .statusUpdateFailed object reason => "status update for '" ++ object ++ "' failed: " ++ reason
  | .conflict object expected actual =>
    "conflict updating '" ++ object ++ "': expected resource version " ++
      toString expected.toNat ++ ", found " ++ toString actual.toNat
  | .objectNotFound object => "object '" ++ object ++ "' not found"
  | .stepFailed step reason => "step '" ++ step ++ "' failed: " ++ reason
  | .stateInit reason => "failed to initialize state: " ++ reason
  | .cancelled => "context cancelled"
  | .deadlineExceeded => "context deadline exceeded"
  | .invalidConfig reason => "invalid configuration: " ++ reason
  | .wrapped context source => context ++ ": " ++ source.message

/-- The messages of the errors inside, from the outside in. -/
def chain : Error → List String
  | .wrapped _ source => source.message :: source.chain
  | _ => []

@[simp] theorem rootCause_wrap (e : Error) (context : String) :
    (e.wrap context).rootCause = e.rootCause := rfl

@[simp] theorem isRetryable_wrap (e : Error) (context : String) :
    (e.wrap context).isRetryable = e.isRetryable := rfl

@[simp] theorem message_wrap (e : Error) (context : String) :
    (e.wrap context).message = context ++ ": " ++ e.message := rfl

@[simp] theorem chain_wrap (e : Error) (context : String) :
    (e.wrap context).chain = e.message :: e.chain := rfl

end Error

end ControlLoop
