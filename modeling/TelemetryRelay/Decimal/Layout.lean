import TelemetryRelay.Decimal.Shortest

/-!
The text of a binary64 number. A `Layout` fixes how the shortest digits are laid out; the line
format and the diagnostics of the text reader each have one.
-/

namespace TelemetryRelay.Decimal

/-- The decisions a number format makes on top of the shortest digits. -/
structure Layout where
  tie : Tie
  /-- The places of the point, counted from the first digit, that are written without an exponent;
  all of them if there is no bound. -/
  positional : Option (Int × Int)
  keepsPoint : Bool

/-- Values on a line: never an exponent, no `.0`, a half goes up. -/
def Layout.value : Layout := ⟨.up, none, false⟩

/-- Numbers inside a diagnostic: an exponent from `10 ^ 16` on and below `10 ^ -5`, a point in every
other one, a half to the even digit. -/
def Layout.diagnostic : Layout := ⟨.even, some (-4, 16), true⟩

def Layout.isPositional (layout : Layout) (point : Int) : Bool :=
  match layout.positional with
  | none => true
  | some (least, greatest) => least ≤ point && point ≤ greatest

def plain (decimal : Decimal) (keepsPoint : Bool) : List Char :=
  let digits := decimal.digits
  if decimal.point ≤ 0 then
    '0' :: '.' :: (List.replicate (-decimal.point).toNat '0' ++ digits)
  else
    let whole := decimal.point.toNat
    if digits.length ≤ whole then
      digits ++ List.replicate (whole - digits.length) '0' ++
        if keepsPoint then ['.', '0'] else []
    else digits.take whole ++ '.' :: digits.drop whole

def withExponent (decimal : Decimal) : List Char :=
  let power := decimal.point - 1
  let sign := if power < 0 then '-' else '+'
  let fraction := decimal.digits.drop 1
  decimal.digits.take 1 ++ (if fraction.isEmpty then [] else '.' :: fraction) ++
    'e' :: sign :: Nat.toDigits 10 power.natAbs

def Layout.finite (layout : Layout) (number : Binary64) : List Char :=
  let body :=
    if number.isZero then if layout.keepsPoint then ['0', '.', '0'] else ['0']
    else
      let decimal := shortest layout.tie number
      if layout.isPositional decimal.point then decimal.plain layout.keepsPoint
      else decimal.withExponent
  if number.negative then '-' :: body else body

def Layout.render (layout : Layout) (number : Binary64) : String :=
  if number.isFinite then String.ofList (layout.finite number)
  else if number.isInfinite then if number.negative then "-inf" else "inf"
  else "NaN"

end TelemetryRelay.Decimal
