import ControlLoop.Json.Value
import ControlLoop.Text.Digits

/-!
# Writing JSON text

A value on one line without blanks; control characters and line separators are escaped. A text
without characters is written as the empty text and a number that is not an integer as zero; no
value that the library builds holds either.
-/

namespace ControlLoop.Json

open Text

def hexDigits4 (n : Nat) : String :=
  String.ofList ([n / 0x1000, n / 0x100, n / 0x10, n].map fun d ↦ Nat.digitChar (d % 16))

/-- A character that may end a line or cannot be seen. -/
def isControl (c : Char) : Bool :=
  c.toNat < 0x20 || (0x7F ≤ c.toNat && c.toNat < 0xA0) || c == '\u2028' || c == '\u2029'

def escaped (c : Char) : String :=
  if c == '"' then "\\\""
  else if c == '\\' then "\\\\"
  else if isControl c then "\\u" ++ hexDigits4 c.toNat
  else c.toString

def quote (s : String) : String :=
  "\"" ++ s.foldl (fun out c ↦ out ++ escaped c) "" ++ "\""

mutual

def print : Json → String
  | .null => "null"
  | .bool b => if b then "true" else "false"
  | .integer n => toString n
  | .fractional => "0"
  | .string s => quote (s.getD "")
  | .array items => "[" ++ ",".intercalate (printItems items) ++ "]"
  | .object members => "\x7b" ++ ",".intercalate (printMembers members) ++ "\x7d"

def printItems : List Json → List String
  | [] => []
  | item :: items => print item :: printItems items

def printMembers : List (Option String × Json) → List String
  | [] => []
  | (name, value) :: members =>
    (quote (name.getD "") ++ ":" ++ print value) :: printMembers members

end

end ControlLoop.Json
