import ControlLoop.Toml.Scalar
import ControlLoop.Toml.Table

/-!
# Reading TOML documents

A document is a list of lines with at most one entry or header each; the values of an entry may go
over several lines where brackets are open. Arrays and tables between braces nest at most eighty
deep. A byte order mark at the start is skipped.
-/

namespace ControlLoop.Toml

open Text Scan

def comment : Scan Unit := do
  char '#'
  skipWhile isPlain

/-- Blanks, line breaks and comments between the parts of a value in brackets. -/
def gap : Scan Unit := do
  let _ ← many ((do let _ ← satisfy isSpace) <|> newline <|> comment)

def isBare (c : Char) : Bool := c.isAlphanum || c == '_' || c == '-'

def keyPart : Scan String :=
  String.ofList <$> takeWhile1 isBare <|> basicString <|> literalString

/-- A dotted key: the parts before the last one, and the last one. -/
def dottedKey : Scan (List String × String) := do
  let parts ← sepBy1 keyPart (do spaces; char '.'; spaces)
  match parts.getLast? with
  | some last => return (parts.dropLast, last)
  | none => failure

/-- The items between brackets, a comma after each but the last, after which it may be left out. -/
def bracketed {α : Type} (opening closing : Char) (item : Scan α) : Scan (List α) := do
  char opening
  gap
  let items ← maybe (sepBy1 (item <* gap) (char ',' *> gap))
  if items.isSome then
    let _ ← maybe (char ',' *> gap)
  char closing
  return items.getD []

def entryOf (value : Scan Toml) : Scan Entry := do
  let (path, key) ← dottedKey
  spaces
  char '='
  spaces
  return ⟨path, key, ← value⟩

/-- A value with at most `depth` brackets inside each other. -/
def value : Nat → Scan Toml
  | 0 => scalar
  | depth + 1 => do
    match ← peek with
    | some '[' => .array <$> bracketed '[' ']' (value depth)
    | some '\x7b' => do
      let entries ← bracketed '\x7b' '\x7d' (entryOf (value depth))
      ofBraced entries
    | _ => scalar

def maxDepth : Nat := 80

inductive Line where
  | blank
  | entry (e : Entry)
  | header (path : List String) (key : String) (repeated : Bool)

def header : Scan Line := do
  let name : Scan (List String × String) := do
    spaces
    let name ← dottedKey
    spaces
    return name
  let repeated : Scan Line := do
    literal "[["
    let (path, key) ← name
    literal "]]"
    return .header path key true
  let single : Scan Line := do
    char '['
    let (path, key) ← name
    char ']'
    return .header path key false
  repeated <|> single

def line : Scan Line := do
  spaces
  let content ← maybe (header <|> Line.entry <$> entryOf (value maxDepth))
  spaces
  let _ ← maybe comment
  return content.getD .blank

def lines : Scan (List Line) := do
  let _ ← maybe (char '\uFEFF')
  sepBy1 line newline

/-- The entries before the first header, and the blocks. -/
def blocks : List Line → List Entry × List Block
  | [] => ([], [])
  | .blank :: rest => blocks rest
  | .entry e :: rest => let (entries, bs) := blocks rest; (e :: entries, bs)
  | .header path key repeated :: rest =>
    let (entries, bs) := blocks rest
    ([], ⟨path, key, repeated, entries⟩ :: bs)

/-- The document that a text denotes, if it denotes one. -/
def parse? (text : String) : Option Toml := do
  let (entries, bs) := blocks (← lines.readAll text.toList)
  ofBlocks entries bs

end ControlLoop.Toml
