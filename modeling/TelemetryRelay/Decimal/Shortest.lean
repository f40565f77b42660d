import TelemetryRelay.Binary64

/-!
The fewest decimal digits that read back as a given binary64 number. A decimal reads back if it lies
in the interval of reals that round to the number, whose ends count when the mantissa is even. On
each grid of decimals with one more digit only the number's two neighbours can lie in the interval,
and seventeen digits always suffice.
-/

namespace TelemetryRelay

/-- The value `0.d₁d₂d₃… * 10 ^ point`. -/
structure Decimal where
  digits : List Char
  point : Int
deriving DecidableEq, Repr

namespace Decimal

inductive Tie
  | up
  | even
deriving DecidableEq, Repr

/-- The interval of reals that read back as a number, as integers over one denominator. -/
structure Interval where
  low : Nat
  value : Nat
  high : Nat
  denominator : Nat
  closed : Bool
deriving Repr

/-- The gap below a power of two is half the gap above it. -/
def Interval.of (number : Binary64) : Interval :=
  let mantissa := number.mantissa
  let scale := 2 ^ (number.exponent - 2).toNat
  let below := if mantissa = 2 ^ 52 then 1 else 2
  {
    low := (4 * mantissa - below) * scale
    value := 4 * mantissa * scale
    high := (4 * mantissa + 2) * scale
    denominator := 2 ^ (2 - number.exponent).toNat
    closed := mantissa % 2 == 0
  }

def Interval.holds (interval : Interval) (candidate : Nat) : Bool :=
  if interval.closed then interval.low ≤ candidate && candidate ≤ interval.high
  else interval.low < candidate && candidate < interval.high

def Interval.inUnits (interval : Interval) (unit : Int) : Interval :=
  let growth := 10 ^ (-unit).toNat
  {
    low := interval.low * growth
    value := interval.value * growth
    high := interval.high * growth
    denominator := interval.denominator * 10 ^ unit.toNat
    closed := interval.closed
  }

def digitCount (number : Nat) : Nat :=
  (Nat.toDigits 10 number).length

def decimalOrder (numerator denominator : Nat) : Int :=
  if denominator ≤ numerator then (digitCount (numerator / denominator) : Int) - 1
  else -(digitCount ((denominator - 1) / numerator) : Int)

/-- The neighbour of the interval's value on the grid of integers that lies inside, if one does; of
two the nearer. -/
def Interval.nearest? (interval : Interval) (tie : Tie) : Option Nat :=
  let floor := interval.value / interval.denominator
  let twice := 2 * (interval.value % interval.denominator)
  let lower := interval.holds (floor * interval.denominator)
  let upper := interval.holds ((floor + 1) * interval.denominator)
  match lower, upper with
  | false, false => none
  | true, false => some floor
  | false, true => some (floor + 1)
  | true, true =>
    if twice < interval.denominator then some floor
    else if interval.denominator < twice then some (floor + 1)
    else
      match tie with
      | .up => some (floor + 1)
      | .even => some (if floor % 2 = 0 then floor else floor + 1)

def dropTrailingZeros (digits : List Char) : List Char :=
  (digits.reverse.dropWhile (· == '0')).reverse

def shortest (tie : Tie) (number : Binary64) : Decimal :=
  let interval := Interval.of number
  let order := decimalOrder interval.value interval.denominator
  let found := (List.range 17).findSome? fun (places : Nat) =>
    let unit := order - places
    ((interval.inUnits unit).nearest? tie).map fun significand => (significand, unit)
  match found with
  | none => ⟨[], 0⟩
  | some (significand, unit) =>
    let digits := Nat.toDigits 10 significand
    ⟨dropTrailingZeros digits, digits.length + unit⟩

end Decimal

end TelemetryRelay
