import ControlLoop.Toml.Value

/-!
# Building tables

Every key has one value and every table one definition. A header may define a table that so far is
only implied by the paths of other headers, and a path leads through the last of several tables of
one header. Dotted keys extend only tables that dotted keys made; tables between braces are
complete.
-/

namespace ControlLoop.Toml

/-- Changes the value under a key that is there. -/
def modifyMember (key : String) (change : Toml → Option Toml) :
    List (String × Toml) → Option (List (String × Toml))
  | [] => none
  | (name, value) :: rest =>
    if name = key then do return (name, ← change value) :: rest
    else do return (name, value) :: (← modifyMember key change rest)

def member? (key : String) (members : List (String × Toml)) : Option Toml :=
  (members.find? (·.1 = key)).map (·.2)

def changeLast (change : Toml → Option Toml) (items : List Toml) : Option (List Toml) := do
  return items.dropLast ++ [← change (← items.getLast?)]

/-- Goes into the value under a key of a path: a table that the path may extend, or the last of the
tables under a header. -/
def enter (dotted : Bool) (change : Toml → Option Toml) : Toml → Option Toml
  | .tables items => (changeLast change items).map .tables
  | .table .headed members => if dotted then none else change (.table .headed members)
  | .table .implied members => change (.table .implied members)
  | .table .dotted members => change (.table .dotted members)
  | _ => none

/-- Changes the table at the end of a path, which makes the tables that are missing. -/
def changeAt (dotted : Bool) (change : Toml → Option Toml) : List String → Toml → Option Toml
  | [], t => change t
  | key :: path, .table origin members =>
    match member? key members with
    | none => do
      let made ← changeAt dotted change path (.table (if dotted then .dotted else .implied) [])
      return .table origin (members ++ [(key, made)])
    | some _ =>
      (modifyMember key (enter dotted (changeAt dotted change path)) members).map (.table origin)
  | _ :: _, _ => none

/-- Adds a value under a key that is not there yet. -/
def addMember (key : String) (value : Toml) : Toml → Option Toml
  | .table origin members =>
    if (member? key members).isSome then none else some (.table origin (members ++ [(key, value)]))
  | _ => none

def isDotted : Toml → Bool
  | .table .dotted _ => true
  | _ => false

/-- Adds a value under a dotted key, `path` being the key without its last part. -/
def addEntry (path : List String) (key : String) (value : Toml) (t : Toml) : Option Toml :=
  changeAt (!path.isEmpty)
    (fun parent ↦ if parent.isDotted = !path.isEmpty then addMember key value parent else none)
    path t

structure Entry where
  path : List String
  key : String
  value : Toml

def addEntries (entries : List Entry) (t : Toml) : Option Toml :=
  entries.foldlM (fun t e ↦ addEntry e.path e.key e.value t) t

/-- The table between braces. -/
def ofBraced (entries : List Entry) : Option Toml := do
  match ← addEntries entries (.table .headed []) with
  | .table _ members => return .table .braced members
  | _ => none

/-- Defines the table under a header. -/
def defineTable (key : String) (entries : List Entry) : Toml → Option Toml
  | .table origin members =>
    match member? key members with
    | none => do
      return .table origin (members ++ [(key, ← addEntries entries (.table .headed []))])
    | some _ => do
      let define : Toml → Option Toml
        | .table .implied known => addEntries entries (.table .headed known)
        | _ => none
      return .table origin (← modifyMember key define members)
  | _ => none

/-- Adds a table under a header in double brackets. -/
def appendTable (key : String) (entries : List Entry) : Toml → Option Toml
  | .table origin members => do
    let t ← addEntries entries (.table .headed [])
    match member? key members with
    | none => return .table origin (members ++ [(key, .tables [t])])
    | some _ =>
      let append : Toml → Option Toml
        | .tables items => some (.tables (items ++ [t]))
        | _ => none
      return .table origin (← modifyMember key append members)
  | _ => none

/-- A header and the entries below it. -/
structure Block where
  path : List String
  key : String
  repeated : Bool
  entries : List Entry

def addBlock (document : Toml) (b : Block) : Option Toml :=
  changeAt false ((if b.repeated then appendTable else defineTable) b.key b.entries) b.path document

/-- The document of the entries before the first header and the blocks after it. -/
def ofBlocks (entries : List Entry) (blocks : List Block) : Option Toml := do
  blocks.foldlM addBlock (← addEntries entries emptyDocument)

end ControlLoop.Toml
