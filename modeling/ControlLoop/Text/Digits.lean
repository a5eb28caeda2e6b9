/-!
# Decimal digits

Numbers in fixed-width decimal and the digits of a fraction without trailing zeros, as times and
durations are written.
-/

namespace ControlLoop.Text

/-- The decimal digits of `n`, with zeros in front up to `width` characters. -/
def padded (width n : Nat) : String :=
  let digits := Nat.toDigits 10 n
  String.ofList (List.replicate (width - digits.length) '0' ++ digits)

/-- The digits of the fraction `n / 10 ^ places`, its trailing zeros dropped. -/
def fractionDigits (places n : Nat) : String :=
  String.ofList ((padded places n).toList.reverse.dropWhile (· == '0')).reverse

/-- A number with `places` decimal places, the zeros at its end and a bare point dropped. -/
def fixedPoint (whole fraction places : Nat) : String :=
  if fraction = 0 then toString whole
  else toString whole ++ "." ++ fractionDigits places fraction

/-- The value of a digit of base sixteen, in either case. -/
def hexValue (c : Char) : Option Nat :=
  if '0' ≤ c ∧ c ≤ '9' then some (c.toNat - '0'.toNat)
  else if 'a' ≤ c ∧ c ≤ 'f' then some (c.toNat - 'a'.toNat + 10)
  else if 'A' ≤ c ∧ c ≤ 'F' then some (c.toNat - 'A'.toNat + 10)
  else none

/-- The number that digits of the given base denote; a digit counts by its value below sixteen. -/
def ofDigits (base : Nat) (digits : List Char) : Nat :=
  digits.foldl (fun n c ↦ n * base + (hexValue c).getD 0) 0

end ControlLoop.Text
