import ControlLoop.Bag
import ControlLoop.Duration
import ControlLoop.Object.Basic
import ControlLoop.Saturating
import ControlLoop.Signal

/-!
# Scripts

A language for describing pipelines: tests on the context and state of a pass, effects of steps on
the context, the bag, the object and the store, calls that describe a status update, and plans that
put steps together. A step performs its effects in order until one of them ends it.
-/

namespace ControlLoop.Script

inductive Test where
  | deleting
  | not (t : Test)
  | all (ts : List Test)
  | any (ts : List Test)
  | const (value : Bool)
  | spec (value : String)
  | name (value : String)
  | hasFinalizer (finalizer : String)
  | conditionAffirmed (type : String)
  | conditionDenied (type : String)
  | conditionPresent (type : String)
  | field (name value : String)
  | contextDone
  | bagContains (key : String)
  | versionAtLeast (version : UInt64)
  /-- Leaves the test's name and result on the trail. -/
  | noted (name : String) (t : Test)

inductive ContextEffect where
  | background
  | field (name value : String)
  | timeout (limit : Duration)
  | deadline (due : Instant)
  /-- Makes a cancellable context whose handle is held under the name. -/
  | cancellation (handle : String)
  | span (name : String)

inductive BagEffect where
  | insert (key : String) (value : BagValue)
  | get (key : String) (type : BagType)
  /-- Adds the value to the one under the key, if that has its type. -/
  | add (key : String) (value : BagValue)
  | remove (key : String) (type : BagType)
  | contains (key : String)
  | size
  | display

inductive UpdateCall where
  | set (conditions : List Condition)
  | keepOnly (types : List String)
  | keepAll
  | logMessage (message : String)
  | failedSignal (s : Signal)
  | successSignal (s : Signal)
  /-- Replaces the error, or wraps it where no replacement is given. -/
  | wrapper (context : String) (replacement : Option Error)
  | onError (s : Option Signal) (effects : List ContextEffect)
  | onSuccess (s : Signal) (effects : List ContextEffect)

mutual

inductive Effect where
  | context (e : ContextEffect)
  | bag (e : BagEffect)
  | addFinalizer (finalizer : String)
  | removeFinalizer (finalizer : String)
  | hasFinalizer (finalizer : String)
  | setCondition (c : Condition)
  | removeCondition (type : String)
  | markDeleted (time : UtcTime)
  | setVersion (version : UInt64)
  | setSpec (value : String)
  | rename (name : String)
  | field (name : String)
  | reportContext
  | reportKey
  | cancel (handle : String)
  | dropHandle (handle : String)
  | returnIf (t : Test) (s : Signal)
  | logFailure (e : Error) (message : String) (s : Signal)
  | sleep (d : Duration)
  | awaitDone
  | failNext (e : Error)
  | storeInsert (o : Object)
  | storeRemove (key : ObjectKey)
  | persist
  | update (calls : List UpdateCall)
  | run (p : Plan)

inductive Plan where
  | step (name : String) (effects : List Effect) (s : Signal)
  | proceed
  | forget
  | requeue (after : Option Duration)
  /-- A sequence, which leaves its size on the trail when it is built if it is `noted`. -/
  | sequence (name : String) (parts : List Plan) (noted : Bool)
  | switch (name : String) (cases : List (Test × Plan)) (default : Option Plan)
  | ifElse (name : String) (test : Test) (part : Plan) (otherwise : Option Plan)
  | update (calls : List UpdateCall)

end

end ControlLoop.Script
