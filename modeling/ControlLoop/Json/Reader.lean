import ControlLoop.Json.Value
import ControlLoop.Text.Digits
import ControlLoop.Text.Scan

/-!
# Reading JSON text

The grammar of RFC 8259, without extensions: no leading zeros, no comments, no trailing commas, no
control characters inside strings and nothing after the value. A text of `n` characters nests less
than `n` deep, which bounds the recursion.
-/

namespace ControlLoop.Json

open Text Scan

def isSpace (c : Char) : Bool :=
  c == ' ' || c == '\t' || c == '\n' || c == '\r'

def spaces : Scan Unit := skipWhile isSpace

/-- A character between blanks. -/
def mark (c : Char) : Scan Unit := do
  spaces
  char c
  spaces

def codeUnit : Scan Nat := do
  return ofDigits 16 (← exactly 4 fun c ↦ (hexValue c).isSome)

def isLeading (n : Nat) : Bool := 0xD800 ≤ n && n < 0xDC00

def isTrailing (n : Nat) : Bool := 0xDC00 ≤ n && n < 0xE000

/-- The character of a pair of surrogates. -/
def pairedCharacter (leading trailing : Nat) : Char :=
  Char.ofNat (0x10000 + (leading - 0xD800) * 0x400 + (trailing - 0xDC00))

/-- What follows `\u`: a character, or `none` for a surrogate that stands alone. -/
def unicodeEscape : Scan (Option Char) := do
  let n ← codeUnit
  if isLeading n then
    let pair : Scan Nat := do
      literal "\\u"
      let t ← codeUnit
      guard (isTrailing t)
      return t
    return (← maybe pair).map (pairedCharacter n)
  else if isTrailing n then return none
  else return some (Char.ofNat n)

def escape : Scan (Option Char) := do
  match ← satisfy fun _ ↦ true with
  | '"' => return some '"'
  | '\\' => return some '\\'
  | '/' => return some '/'
  | 'b' => return some '\x08'
  | 'f' => return some '\x0c'
  | 'n' => return some '\n'
  | 'r' => return some '\r'
  | 't' => return some '\t'
  | 'u' => unicodeEscape
  | _ => failure

def stringCharacter : Scan (Option Char) := do
  let c ← satisfy fun c ↦ 0x20 ≤ c.toNat && c != '"'
  if c == '\\' then escape else return some c

def quoted : Scan (Option String) := do
  char '"'
  let characters ← many stringCharacter
  char '"'
  return (characters.mapM id).map String.ofList

/-- The digits before the point: a zero stands alone. -/
def wholeDigits : Scan (List Char) := do
  let first ← satisfy Char.isDigit
  if first == '0' then return [first]
  else return first :: (← takeWhile Char.isDigit)

def fraction : Scan Unit := do
  char '.'
  let _ ← takeWhile1 Char.isDigit

def exponent : Scan Unit := do
  let _ ← satisfy fun c ↦ c == 'e' || c == 'E'
  let _ ← maybe (satisfy fun c ↦ c == '+' || c == '-')
  let _ ← takeWhile1 Char.isDigit

def number : Scan Json := do
  let negative ← maybe (char '-')
  let digits ← wholeDigits
  let fraction ← maybe fraction
  let exponent ← maybe exponent
  let n := ofDigits 10 digits
  if fraction.isSome || exponent.isSome then return .fractional
  else if negative.isNone then return .integer n
  else if n = 0 then return .fractional
  else return .integer (-n)

/-- A value nested at most `depth` deep. -/
def value : Nat → Scan Json
  | 0 => failure
  | depth + 1 => do
    match ← peek with
    | some '{' =>
      char '{'
      spaces
      let member : Scan (Option String × Json) := do
        let name ← quoted
        mark ':'
        return (name, ← value depth)
      let members ← maybe (sepBy1 member (mark ','))
      spaces
      char '}'
      return .object (members.getD [])
    | some '[' =>
      char '['
      spaces
      let items ← maybe (sepBy1 (value depth) (mark ','))
      spaces
      char ']'
      return .array (items.getD [])
    | some '"' => return .string (← quoted)
    | some 't' => literal "true"; return .bool true
    | some 'f' => literal "false"; return .bool false
    | some 'n' => literal "null"; return .null
    | _ => number

/-- The value that a text denotes, if it denotes one. -/
def parse? (text : String) : Option Json :=
  let document : Scan Json := do
    spaces
    let j ← value (text.length + 1)
    spaces
    return j
  document.readAll text.toList

end ControlLoop.Json
