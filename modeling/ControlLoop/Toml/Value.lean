import ControlLoop.Binary64.Basic

/-!
# TOML values

A table remembers how it came to be, since that decides in which ways more members may be added to
it. A date or time is known only to be well formed.
-/

namespace ControlLoop

/-- How a table came to be: under a header of its own or as the document, between braces, as part of
the path of a header, or as part of a dotted key. -/
inductive TableOrigin where
  | headed
  | braced
  | implied
  | dotted
deriving DecidableEq

inductive Toml where
  | text (s : String)
  | integer (n : Int)
  | float (x : Binary64)
  | flag (b : Bool)
  | time
  | array (items : List Toml)
  /-- The tables under repeated headers in double brackets. -/
  | tables (items : List Toml)
  | table (origin : TableOrigin) (members : List (String × Toml))

namespace Toml

def emptyDocument : Toml := .table .headed []

end Toml

end ControlLoop
