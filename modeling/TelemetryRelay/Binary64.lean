import TelemetryRelay.Power

/-!
IEEE 754 binary64 numbers, held as a sign and a magnitude. The magnitude is the encoding without its
sign bit, so magnitudes order as the absolute values do, and `infinity` is the first one that is not
finite. Arithmetic is exact on ratios of natural numbers and rounds once, to nearest, ties to even.
-/

namespace TelemetryRelay

structure Binary64 where
  negative : Bool
  magnitude : Fin (2 ^ 63)
deriving DecidableEq, Repr

namespace Binary64

def infinity : Nat := 2047 * 2 ^ 52

instance : Inhabited Binary64 := ⟨⟨false, ⟨0, Nat.two_pow_pos 63⟩⟩⟩

def zero : Binary64 := default

def ofBits (bits : UInt64) : Binary64 :=
  ⟨decide (2 ^ 63 ≤ bits.toNat), ⟨bits.toNat % 2 ^ 63, Nat.mod_lt _ (Nat.two_pow_pos 63)⟩⟩

def isFinite (number : Binary64) : Bool :=
  decide (number.magnitude.val < infinity)

def isInfinite (number : Binary64) : Bool :=
  decide (number.magnitude.val = infinity)

def isZero (number : Binary64) : Bool :=
  decide (number.magnitude.val = 0)

def negate (number : Binary64) : Binary64 :=
  ⟨!number.negative, number.magnitude⟩

/-- A finite number is `±mantissa * 2 ^ exponent`. -/
def mantissa (number : Binary64) : Nat :=
  let magnitude := number.magnitude.val
  if magnitude < 2 ^ 52 then magnitude else 2 ^ 52 + magnitude % 2 ^ 52

def exponent (number : Binary64) : Int :=
  (max 1 (number.magnitude.val / 2 ^ 52) : Nat) - 1075

def numerator (number : Binary64) : Nat :=
  number.mantissa * 2 ^ number.exponent.toNat

def denominator (number : Binary64) : Nat :=
  2 ^ (-number.exponent).toNat

/-- The quotient to the nearest integer, a half to the even one. -/
def roundDivision (numerator denominator : Nat) : Nat :=
  let quotient := numerator / denominator
  let twice := 2 * (numerator % denominator)
  if twice < denominator ∨ (twice = denominator ∧ quotient % 2 = 0) then quotient else quotient + 1

/-- The greatest `power` with `2 ^ power ≤ numerator / denominator`, both positive. -/
def binaryOrder (numerator denominator : Nat) : Int :=
  let estimate : Int := (numerator.log2 : Int) - denominator.log2
  if denominator * 2 ^ estimate.toNat ≤ numerator * 2 ^ (-estimate).toNat then estimate
  else estimate - 1

/-- The magnitude nearest to a positive ratio. A quotient that rounds up to the next power of two
carries into the exponent by addition; a ratio too large for any finite number gives infinity. -/
def roundedMagnitude (numerator denominator : Nat) : Nat :=
  let unit := max (binaryOrder numerator denominator - 52) (-1074)
  let quotient := roundDivision (numerator * 2 ^ (-unit).toNat) (denominator * 2 ^ unit.toNat)
  min ((unit + 1074).toNat * 2 ^ 52 + quotient) infinity

theorem roundedMagnitude_lt (numerator denominator : Nat) :
    roundedMagnitude numerator denominator < 2 ^ 63 :=
  Nat.lt_of_le_of_lt (Nat.min_le_right _ _) (by decide)

def ofRatio (negative : Bool) (numerator denominator : Nat) : Binary64 :=
  if numerator = 0 then ⟨negative, ⟨0, Nat.two_pow_pos 63⟩⟩
  else ⟨negative, ⟨roundedMagnitude numerator denominator, roundedMagnitude_lt _ _⟩⟩

def ofNat (number : Nat) : Binary64 :=
  ofRatio false number 1

def ofInt (number : Int) : Binary64 :=
  ofRatio (decide (number < 0)) number.natAbs 1

def multiply (left right : Binary64) : Binary64 :=
  ofRatio (left.negative != right.negative) (left.numerator * right.numerator)
    (left.denominator * right.denominator)

def divide (left right : Binary64) : Binary64 :=
  ofRatio (left.negative != right.negative) (left.numerator * right.denominator)
    (left.denominator * right.numerator)

end Binary64

end TelemetryRelay
