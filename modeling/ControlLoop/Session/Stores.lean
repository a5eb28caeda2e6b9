import ControlLoop.Session.Basic

/-!
# Sessions with a store

Clients keep copies of objects under names and write their status, so that several copies of one
object can be written one after the other.
-/

namespace ControlLoop

/-- Where an object comes from: it is given, or fetched from the store. -/
inductive ObjectSource where
  | given (o : Object)
  | stored (key : ObjectKey)

namespace ObjectSource

def find? (store : Store) : ObjectSource → Option Object
  | .given o => some o
  | .stored key => store.get? key

end ObjectSource

inductive StoreOp where
  | insert (o : Object)
  | get (key : ObjectKey)
  | remove (key : ObjectKey)
  | failNext (e : Error)
  | keep (name : String) (source : ObjectSource)
  | setSpec (name value : String)
  | update (name : String)

inductive StoreAnswer where
  | nothing
  | object (o : Option Object)
  | written (failure : Option Error) (o : Object)

structure StoreSession where
  session : Session := {}
  copies : Std.ExtTreeMap String Object := ∅

namespace StoreSession

variable (s : StoreSession)

def store : Store := s.session.world.store

def changeStore (change : Store → Store) : StoreSession :=
  { s with session := s.session.changeStore change }

def perform : StoreOp → StoreAnswer × StoreSession
  | .insert o => (.nothing, s.changeStore (·.insert o))
  | .get key => (.object (s.store.get? key), s)
  | .remove key => (.object (s.store.get? key), s.changeStore (·.remove key))
  | .failNext e => (.nothing, s.changeStore (·.failNext e))
  | .keep name source =>
    match source.find? s.store with
    | none => (.object none, s)
    | some o => (.object (some o), { s with copies := s.copies.insert name o })
  | .setSpec name value =>
    match s.copies[name]? with
    | none => (.nothing, s)
    | some o => (.nothing, { s with copies := s.copies.insert name { o with spec := value } })
  | .update name =>
    match s.copies[name]? with
    | none => (.nothing, s)
    | some o =>
      let (answer, session) := s.session.act (Act.persist o)
      match answer with
      | .error e => (.written (some e) o, { s with session })
      | .ok written =>
        (.written none written, { session, copies := s.copies.insert name written })

/-- The answers of operations one after the other, each with the number of writes so far. -/
def performAll (s : StoreSession) : List StoreOp → List (StoreAnswer × UInt64 × TurnReport)
  | [] => []
  | op :: ops =>
    let (answer, s) := s.perform op
    let (report, session) := s.session.report
    (answer, s.store.writes, report) :: performAll { s with session } ops

end StoreSession

end ControlLoop
