import ControlLoop.Text.Blank
import ControlLoop.Text.Digits
import ControlLoop.Text.Scan
import ControlLoop.Time.Calendar

/-!
# Times as text

A time is written as RFC 3339 has it: universal time with `T` and `Z`, and a fraction of 0, 3, 6 or
9 digits, the fewest that are exact. A leap second, which is kept as a second with a billion
nanoseconds or more, is second 60. A year outside of 0 to 9999, which RFC 3339 does not have,
carries a sign.

What is read is the relaxed form of RFC 3339 that readers of times commonly document. It has the
parts of the strict form in their order, with these liberties: blanks may surround the numbers,
months to seconds may have a single digit, a blank may stand for the `T`, letters may be small,
`UTC` may stand for the `Z`, the fraction may have any number of digits of which nine count, and the
offset may omit its colon. The seconds and the offset are required, and fields that are out of range
are refused. A time that has been written is read as it was.
-/

namespace ControlLoop.Rfc3339

open Text Scan

def signedYear (year : Int) : String :=
  if 0 ≤ year ∧ year ≤ 9999 then padded 4 year.toNat
  else if year < 0 then "-" ++ padded 4 year.natAbs
  else "+" ++ padded 4 year.natAbs

/-- The fraction of a second in none, three, six or nine digits, the fewest that are exact. -/
def fractionText (nano : Nat) : String :=
  if nano = 0 then ""
  else if nano % 1000000 = 0 then "." ++ padded 3 (nano / 1000000)
  else if nano % 1000 = 0 then "." ++ padded 6 (nano / 1000)
  else "." ++ padded 9 nano

def print (t : UtcTime) : String :=
  signedYear t.date.year ++ "-" ++ padded 2 t.date.month ++ "-" ++ padded 2 t.date.day ++ "T" ++
    padded 2 t.time.hour ++ ":" ++ padded 2 t.time.minute ++ ":" ++
    padded 2 t.time.secondOfMinute ++ fractionText t.time.fraction ++ "Z"

def blanks : Scan Unit := skipWhile isBlank

/-- At least one digit and at most `most`. -/
def number (most : Nat) : Scan Nat := fun s ↦
  let digits := (s.take most).takeWhile Char.isDigit
  if digits.isEmpty then none else some (ofDigits 10 digits, s.drop digits.length)

def year : Scan Int := do
  blanks
  match ← maybe (satisfy fun c ↦ c == '+' || c == '-') with
  | some sign =>
    let digits ← takeWhile1 Char.isDigit
    let n : Int := ofDigits 10 digits
    return if sign == '-' then -n else n
  | none => return (← number 4 : Nat)

/-- A number of at most two digits after a separator. -/
def next (separator : Char) : Scan Nat := do
  blanks
  char separator
  blanks
  number 2

def date : Scan Date := do
  let y ← year
  let m ← next '-'
  let d ← next '-'
  Date.ofFields? y m d

/-- The first nine digits of the fraction, as nanoseconds. -/
def fraction : Scan Nat := do
  char '.'
  let digits ← takeWhile1 Char.isDigit
  let counted := digits.take 9
  return ofDigits 10 counted * Nat.pow 10 (9 - counted.length)

def dayTime : Scan DayTime := do
  blanks
  let hour ← number 2
  let minute ← next ':'
  let second ← next ':'
  let nano ← maybe fraction
  DayTime.ofFields? hour minute second (nano.getD 0)

def universal : Scan Int := do
  let _ ← satisfy fun c ↦ c.toUpper == 'U'
  let _ ← satisfy fun c ↦ c.toUpper == 'T'
  let _ ← satisfy fun c ↦ c.toUpper == 'C'
  return 0

def zulu : Scan Int := do
  let _ ← satisfy fun c ↦ c == 'Z' || c == 'z'
  return 0

/-- Hours and minutes ahead of universal time, in minutes and less than a day. -/
def offset : Scan Int := do
  let sign ← satisfy fun c ↦ c == '+' || c == '-' || c == '−'
  let hours ← exactly 2 Char.isDigit
  skipWhile fun c ↦ c == ':' || isBlank c
  let minutes ← exactly 2 Char.isDigit
  let h := ofDigits 10 hours
  let m := ofDigits 10 minutes
  guard (m < 60 ∧ h < 24)
  let total : Int := h * 60 + m
  return if sign == '+' then total else -total

def utcTime : Scan UtcTime := do
  let d ← date
  let _ ← satisfy fun c ↦ c == 'T' || c == 't' || c == ' '
  let t ← dayTime
  blanks
  let minutes ← universal <|> zulu <|> offset
  blanks
  UtcTime.ofLocal? d t minutes

def parse? (text : String) : Option UtcTime :=
  utcTime.readAll text.toList

end ControlLoop.Rfc3339
