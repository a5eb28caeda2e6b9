import ControlLoop.Config.Basic
import ControlLoop.Telemetry.Filter

/-!
# Setting up the log

The log is set up once, for good. The filter of the surroundings goes before the one that the caller
gives, unless it is missing or not well formed.
-/

namespace ControlLoop.Telemetry

def isWellFormed (filter : String) : Bool := (checkFilter filter).isOk

/-- The filter that decides: the one of the surroundings, if it is well formed. -/
def chosenFilter (ambient : Option String) (given : String) : String :=
  (ambient.filter isWellFormed).getD given

/-- Sets up the log, given whether it is set up already, and says whether it is afterwards. -/
def setup (ambient : Option String) (isSetUp : Bool) (given : String) :
    Except ConfigError Unit × Bool :=
  match checkFilter (chosenFilter ambient given) with
  | .error e => (.error (.telemetry ("invalid filter directive: " ++ e.message)), isSetUp)
  | .ok () =>
    if isSetUp then
      (.error (.telemetry "a global default trace dispatcher has already been set"), true)
    else (.ok (), true)

/-- The results of setting up the log once for each given filter. -/
def setupAll (ambient : Option String) (filters : List String) : List (Except ConfigError Unit) :=
  go false filters
where
  go (isSetUp : Bool) : List String → List (Except ConfigError Unit)
    | [] => []
    | filter :: rest =>
      let (result, isSetUp) := setup ambient isSetUp filter
      result :: go isSetUp rest

end ControlLoop.Telemetry
