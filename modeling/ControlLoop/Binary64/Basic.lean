/-!
# Binary64 arithmetic in whole units

A finite double is a sign and a whole number of units of `2 ^ -1074`, the least positive double: the
number has at most 53 significant bits and lies below `2 ^ 2098` units. Order and equality are
then those of integers, and an operation is an exact ratio rounded once to the nearest double, a tie
to the even one, and to infinity beyond the largest double.
-/

namespace ControlLoop

namespace Binary64

/-- One in units. -/
def unitsOfOne : Nat := 1 <<< 1074

/-- The distance of the doubles around `n` units. -/
def spacing (n : Nat) : Nat := 1 <<< (n.log2 - 52)

/-- The whole numbers of units that are finite doubles. -/
def IsRepresentable (n : Nat) : Prop := n < 1 <<< 2098 ∧ spacing n ∣ n

instance (n : Nat) : Decidable (IsRepresentable n) := inferInstanceAs (Decidable (_ ∧ _))

/-- The whole number nearest to a ratio, a tie going to the even one. -/
def nearest (numerator denominator : Nat) : Nat :=
  let q := numerator / denominator
  let r := numerator % denominator
  if 2 * r < denominator then q
  else if denominator < 2 * r then q + 1
  else q + q % 2

/-- The ratio rounded to 53 significant bits. -/
def roundRatio (numerator denominator : Nat) : Nat :=
  let step := spacing (numerator / denominator)
  nearest numerator (denominator * step) * step

end Binary64

inductive Binary64 where
  | nan
  | infinite (negative : Bool)
  | finite (negative : Bool) (units : Nat) (representable : Binary64.IsRepresentable units)
deriving DecidableEq

namespace Binary64

/-- The double nearest to a ratio of units. -/
def ofRatio (negative : Bool) (numerator denominator : Nat) : Binary64 :=
  let n := roundRatio numerator denominator
  if h : IsRepresentable n then .finite negative n h else .infinite negative

def ofNat (n : Nat) : Binary64 := ofRatio false (n * unitsOfOne) 1

def one : Binary64 := ofNat 1

def mul : Binary64 → Binary64 → Binary64
  | .nan, _ => .nan
  | _, .nan => .nan
  | .infinite s, .infinite t => .infinite (s != t)
  | .infinite s, .finite t n _ => if n = 0 then .nan else .infinite (s != t)
  | .finite s n _, .infinite t => if n = 0 then .nan else .infinite (s != t)
  | .finite s m _, .finite t n _ => ofRatio (s != t) (m * n) unitsOfOne

def signedUnits (negative : Bool) (units : Nat) : Int :=
  if negative then -units else units

/-- The order of the doubles; nothing is less than or greater than `nan`. -/
def less : Binary64 → Binary64 → Bool
  | .nan, _ => false
  | _, .nan => false
  | .infinite s, .infinite t => s && !t
  | .infinite s, .finite _ _ _ => s
  | .finite _ _ _, .infinite t => !t
  | .finite s m _, .finite t n _ => signedUnits s m < signedUnits t n

/-- The lesser of two doubles; `nan` gives way to the other. -/
def min (a b : Binary64) : Binary64 :=
  match a, b with
  | .nan, _ => b
  | _, .nan => a
  | _, _ => if less b a then b else a

def isFinite : Binary64 → Bool
  | .finite _ _ _ => true
  | _ => false

/-- The power by repeated squaring: the product runs over the squares at the binary digits of the
exponent, lowest first. -/
def powFrom (product square : Binary64) (n : Nat) : Binary64 :=
  let product := if n % 2 = 1 then product.mul square else product
  if n / 2 = 0 then product else powFrom product (square.mul square) (n / 2)
termination_by n
decreasing_by omega

def pow (a : Binary64) (n : Nat) : Binary64 := powFrom one a n

/-- The whole part as a word: fractions are cut off, values outside go to the nearer end, and `nan`
counts as zero. -/
def toWord : Binary64 → UInt64
  | .nan => 0
  | .infinite negative => if negative then 0 else UInt64.ofNat (UInt64.size - 1)
  | .finite negative units _ =>
    if negative then 0 else UInt64.ofNat (Nat.min (units / unitsOfOne) (UInt64.size - 1))

/-- The interchange format: sign, biased exponent and fraction. -/
def toBits : Binary64 → Nat
  | .nan => 0x7ff8000000000000
  | .infinite negative => (if negative then 1 <<< 63 else 0) + 0x7ff0000000000000
  | .finite negative units _ =>
    (if negative then 1 <<< 63 else 0) +
      if units < 1 <<< 52 then units
      else (units.log2 - 51) * (1 <<< 52) + (units / spacing units - 1 <<< 52)

end Binary64

end ControlLoop
