import ControlLoop.StatusUpdate.Builder

/-!
# Status updates as text

The text shows the structure of an update: its conditions, retention and signals with the names and
values of their fields. Hooks and messages are left out.
-/

namespace ControlLoop

/-- A value with the fields it is built from. -/
def displayRecord (name : String) (fields : List (String × String)) : String :=
  name ++ " \x7b " ++ ", ".intercalate (fields.map fun (field, value) ↦ field ++ ": " ++ value) ++
    " \x7d"

def displayOption : Option String → String
  | none => "None"
  | some value => "Some(" ++ value ++ ")"

def Error.display : Error → String
  | .statusUpdateFailed object reason =>
    displayRecord "StatusUpdateFailed"
      [("object", Text.quoted object), ("reason", Text.quoted reason)]
  | .conflict object expected actual =>
    displayRecord "Conflict"
      [("object", Text.quoted object), ("expected", toString expected.toNat),
        ("actual", toString actual.toNat)]
  | .objectNotFound object => displayRecord "ObjectNotFound" [("object", Text.quoted object)]
  | .stepFailed step reason =>
    displayRecord "StepFailed" [("step", Text.quoted step), ("reason", Text.quoted reason)]
  | .stateInit reason => displayRecord "StateInit" [("reason", Text.quoted reason)]
  | .cancelled => "Cancelled"
  | .deadlineExceeded => "DeadlineExceeded"
  | .invalidConfig reason => displayRecord "InvalidConfig" [("reason", Text.quoted reason)]
  | .wrapped context source =>
    displayRecord "Wrapped" [("context", Text.quoted context), ("source", source.display)]

def Signal.display : Signal → String
  | .proceed => "Continue"
  | .forget => "StopAndForget"
  | .requeue after =>
    displayRecord "StopWithRequeue" [("after", displayOption (after.map Duration.unitText))]
  | .propagate e => "Propagate(" ++ e.display ++ ")"

def Condition.display (c : Condition) : String :=
  displayRecord "Condition"
    [("type_", Text.quoted c.type), ("status", c.status.text), ("reason", Text.quoted c.reason),
      ("message", Text.quoted c.message),
      ("observed_generation", toString c.observedGeneration.toInt),
      ("last_transition_time", displayOption (c.lastTransition.map Stamp.text))]

def Retention.display : Retention → String
  | .keepAll => "KeepAll"
  | .keepOnly types => "RemoveAllExcept(" ++ Text.quotedSet types.toList ++ ")"

def StatusUpdate.display (u : StatusUpdate) : String :=
  "UpdateStatusAction \x7b conditions_to_set: [" ++
    ", ".intercalate (u.conditions.map Condition.display) ++ "], retention: " ++
    u.retention.display ++ ", failed_signal: " ++ u.failedSignal.display ++ ", success_signal: " ++
    u.successSignal.display ++ ", .. \x7d"

end ControlLoop
