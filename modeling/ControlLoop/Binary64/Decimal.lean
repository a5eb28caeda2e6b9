import ControlLoop.Binary64.Basic
import ControlLoop.Text.Digits
import ControlLoop.Text.Scan

/-!
# Decimal text of a double

A decimal is read exactly and rounded once. Beyond a decimal magnitude of 400 the result is
infinite or zero whatever the digits, so the exponent never has to be written out.
-/

namespace ControlLoop.Binary64

open Text Scan

/-- The double nearest to `digits * 10 ^ exponent`. -/
def ofScientific (negative : Bool) (digits : Nat) (exponent : Int) : Binary64 :=
  let magnitude : Int := exponent + (Nat.toDigits 10 digits).length
  if digits = 0 ∨ magnitude < -400 then ofRatio negative 0 1
  else if 400 < magnitude then .infinite negative
  else if 0 ≤ exponent then ofRatio negative (digits * Nat.pow 10 exponent.toNat * unitsOfOne) 1
  else ofRatio negative (digits * unitsOfOne) (Nat.pow 10 exponent.natAbs)

/-- The value of a decimal given by the digits before and after the point and an exponent. -/
def ofDecimal (negative : Bool) (whole fraction : List Char) (exponent : Int) : Binary64 :=
  ofScientific negative (ofDigits 10 (whole ++ fraction)) (exponent - fraction.length)

def signOf : Option Char → Bool
  | some c => c == '-'
  | none => false

def sign : Scan Bool := do
  return signOf (← maybe (satisfy fun c ↦ c == '+' || c == '-'))

def exponentPart : Scan Int := do
  let _ ← satisfy fun c ↦ c == 'e' || c == 'E'
  let negative ← sign
  let n : Int := ofDigits 10 (← takeWhile1 Char.isDigit)
  return if negative then -n else n

def fractionPart : Scan (List Char) := do
  char '.'
  takeWhile Char.isDigit

def anyCase (word : String) : Scan Unit :=
  word.toList.forM fun c ↦ do let _ ← satisfy (·.toLower == c)

def decimal : Scan Binary64 := do
  let negative ← sign
  let named : Scan Binary64 :=
    (anyCase "infinity" *> pure (.infinite negative)) <|>
      (anyCase "inf" *> pure (.infinite negative)) <|> (anyCase "nan" *> pure .nan)
  let written : Scan Binary64 := do
    let whole ← takeWhile Char.isDigit
    let fraction := (← maybe fractionPart).getD []
    guard (!(whole ++ fraction).isEmpty)
    return ofDecimal negative whole fraction ((← maybe exponentPart).getD 0)
  named <|> written

/-- The value of a decimal, with an optional sign, point and exponent, or of a named value. -/
def parse? (text : String) : Option Binary64 :=
  decimal.readAll text.toList

end ControlLoop.Binary64
