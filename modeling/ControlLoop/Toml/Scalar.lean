import ControlLoop.Binary64.Decimal
import ControlLoop.Time.Calendar
import ControlLoop.Toml.Value

/-!
# TOML scalars

Strings in one and in several lines, integers to four bases, floats, truth values, dates and times.
Underscores stand between digits only. An integer has to fit into 128 bits and a float written in
digits has to be finite.
-/

namespace ControlLoop.Toml

open Text Scan

def isSpace (c : Char) : Bool := c == ' ' || c == '\t'

def spaces : Scan Unit := skipWhile isSpace

def newline : Scan Unit := do
  let _ ← maybe (char '\r')
  char '\n'

/-- The characters allowed in comments and strings without an escape. -/
def isPlain (c : Char) : Bool := c == '\t' || (0x20 ≤ c.toNat && c.toNat != 0x7F)

/-! ## Strings -/

def hexCharacter (digits : Nat) : Scan Char := do
  let n := ofDigits 16 (← exactly digits fun c ↦ (hexValue c).isSome)
  guard n.isValidChar
  return Char.ofNat n

def escape : Scan Char := do
  match ← satisfy fun _ ↦ true with
  | 'b' => return '\x08'
  | 't' => return '\t'
  | 'n' => return '\n'
  | 'f' => return '\x0c'
  | 'r' => return '\r'
  | 'e' => return '\x1b'
  | '"' => return '"'
  | '\\' => return '\\'
  | 'x' => hexCharacter 2
  | 'u' => hexCharacter 4
  | 'U' => hexCharacter 8
  | _ => failure

def basicCharacter : Scan Char := do
  let c ← satisfy fun c ↦ isPlain c && c != '"'
  if c == '\\' then escape else return c

def basicString : Scan String := do
  char '"'
  let characters ← many basicCharacter
  char '"'
  return String.ofList characters

def literalString : Scan String := do
  char '\''
  let characters ← takeWhile fun c ↦ isPlain c && c != '\''
  char '\''
  return String.ofList characters

/-- A backslash at the end of a line, which joins it with the next text. -/
def joinedLines : Scan (List Char) := do
  char '\\'
  spaces
  newline
  let _ ← many ((do let _ ← satisfy isSpace) <|> newline)
  return []

def lineBreak : Scan (List Char) := newline *> pure ['\n']

/-- Up to two quotes that do not end the string. -/
def innerQuotes (quote : Char) : Scan (List Char) := do
  char quote
  let second ← maybe (char quote)
  absent (char quote)
  return if second.isSome then [quote, quote] else [quote]

/-- A string between triple quotes. A line break right after the opening ones is dropped, and of up
to five quotes at the end the last three close the string. -/
def longString (quote : Char) (piece : Scan (List Char)) : Scan String := do
  let three : Scan Unit := do char quote; char quote; char quote
  three
  let _ ← maybe newline
  let pieces ← many (innerQuotes quote <|> piece)
  three
  let more ← maybe (char quote)
  let evenMore ← maybe (char quote)
  let closing := (more.toList ++ evenMore.toList).map fun _ ↦ quote
  return String.ofList (pieces.flatten ++ closing)

def basicLongString : Scan String :=
  longString '"' (lineBreak <|> joinedLines <|> (fun c ↦ [c]) <$> basicCharacter)

def literalLongString : Scan String :=
  longString '\'' <|
    lineBreak <|> (fun c ↦ [c]) <$> satisfy fun c ↦ isPlain c && c != '\''

def string : Scan String :=
  basicLongString <|> literalLongString <|> basicString <|> literalString

/-! ## Numbers -/

/-- Digits, single underscores between them left out. -/
def digitsOf (isDigit : Char → Bool) : Scan (List Char) := do
  let first ← satisfy isDigit
  let more : Scan Char := do
    let _ ← maybe (char '_')
    satisfy isDigit
  return first :: (← many more)

/-- Decimal digits without a zero in front of others. -/
def wholeDigits : Scan (List Char) := do
  let digits ← digitsOf Char.isDigit
  guard (digits.length = 1 ∨ digits.head? ≠ some '0')
  return digits

/-- The integers of 128 bits, with or without a sign. -/
def fits (n : Int) : Bool :=
  if n < 0 then n.natAbs ≤ 1 <<< 127 else n.natAbs < 1 <<< 128

def integerOf (n : Int) : Scan Toml := do
  guard (fits n)
  return .integer n

def basedInteger (letter : Char) (base : Nat) : Scan Toml := do
  char '0'
  char letter
  let digits ← digitsOf fun c ↦ (hexValue c).any (· < base)
  integerOf (ofDigits base digits)

def decimalInteger : Scan Toml := do
  let negative ← Binary64.sign
  let n : Int := ofDigits 10 (← wholeDigits)
  integerOf (if negative then -n else n)

def floatExponent : Scan Int := do
  let _ ← satisfy fun c ↦ c == 'e' || c == 'E'
  let negative ← Binary64.sign
  let n : Int := ofDigits 10 (← digitsOf Char.isDigit)
  return if negative then -n else n

def writtenFloat : Scan Toml := do
  let negative ← Binary64.sign
  let whole ← wholeDigits
  let fraction ← maybe (char '.' *> digitsOf Char.isDigit)
  let exponent ← maybe floatExponent
  guard (fraction.isSome || exponent.isSome)
  let x := Binary64.ofDecimal negative whole (fraction.getD []) (exponent.getD 0)
  guard x.isFinite
  return .float x

def namedFloat : Scan Toml := do
  let negative ← Binary64.sign
  (literal "inf" *> pure (.float (.infinite negative))) <|> (literal "nan" *> pure (.float .nan))

/-! ## Dates and times -/

def twoDigits (least greatest : Nat) : Scan Unit := do
  let n := ofDigits 10 (← exactly 2 Char.isDigit)
  guard (least ≤ n ∧ n ≤ greatest)

def date : Scan Unit := do
  let year := ofDigits 10 (← exactly 4 Char.isDigit)
  char '-'
  let month := ofDigits 10 (← exactly 2 Char.isDigit)
  char '-'
  let day := ofDigits 10 (← exactly 2 Char.isDigit)
  guard (Date.ofFields? year month day).isSome

/-- Hours and minutes, with seconds and their fraction where they are given. -/
def dayTime : Scan Unit := do
  twoDigits 0 23
  char ':'
  twoDigits 0 59
  let seconds : Scan Unit := do
    char ':'
    twoDigits 0 60
    let fraction : Scan Unit := do
      char '.'
      let _ ← takeWhile1 Char.isDigit
    let _ ← maybe fraction
  let _ ← maybe seconds

def offset : Scan Unit :=
  (do let _ ← satisfy fun c ↦ c == 'Z' || c == 'z') <|> (do
    let _ ← satisfy fun c ↦ c == '+' || c == '-'
    twoDigits 0 23
    char ':'
    twoDigits 0 59)

def moment : Scan Toml := do
  let dated : Scan Unit := do
    date
    let timed : Scan Unit := do
      let _ ← satisfy fun c ↦ c == 'T' || c == 't' || c == ' '
      dayTime
      let _ ← maybe offset
    let _ ← maybe timed
  dated <|> dayTime
  return .time

def scalar : Scan Toml :=
  Toml.text <$> string <|> (literal "true" *> pure (Toml.flag true)) <|>
    (literal "false" *> pure (Toml.flag false)) <|> moment <|> basedInteger 'x' 16 <|>
    basedInteger 'o' 8 <|> basedInteger 'b' 2 <|> writtenFloat <|> decimalInteger <|> namedFloat

end ControlLoop.Toml
