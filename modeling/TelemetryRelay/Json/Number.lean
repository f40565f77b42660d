import TelemetryRelay.Json.Lexeme

/-!
JSON numbers. A number without fraction and exponent that fits 64 bits is an integer. Every other
one is a float: its digits are collected into a 64-bit significand as long as they fit, the rest are
dropped, and the significand is scaled by a power of ten with one rounding for each operation. The
result can therefore be a neighbour of the nearest number, and it is always finite.
-/

namespace TelemetryRelay.Json

inductive Number
  | integer (value : Int)
  | float (value : Binary64)
deriving DecidableEq, Repr

/-- Collects digits onto `significand` while it stays below `2 ^ 64`; gives the digits left over. -/
def collect (significand : Nat) : List Char → Nat × List Char
  | [] => (significand, [])
  | digit :: rest =>
    let next := significand * 10 + (digit.toNat - 0x30)
    if next < 2 ^ 64 then collect next rest else (significand, digit :: rest)

def powerOfTen (exponent : Nat) : Binary64 :=
  Binary64.ofNat (10 ^ exponent)

/-- Divides by a power of ten. Beyond `10 ^ 308` the division takes two steps, and beyond
`10 ^ 616` nothing is left of a 64-bit significand. -/
def scaleDown (number : Binary64) (exponent : Nat) : Binary64 :=
  if exponent ≤ 308 then number.divide (powerOfTen exponent)
  else if exponent ≤ 616 then
    (number.divide (powerOfTen 308)).divide (powerOfTen (exponent - 308))
  else .zero

def scale (significand : Nat) (exponent : Int) : Except Fault Binary64 :=
  if significand = 0 then .ok .zero
  else if exponent < 0 then .ok (scaleDown (.ofNat significand) (-exponent).toNat)
  else if 308 < exponent then .error (.broken .numberRange)
  else
    let product := (Binary64.ofNat significand).multiply (powerOfTen exponent.toNat)
    if product.isFinite then .ok product else .error (.broken .numberRange)

def digitsValue (digits : List Char) : Nat :=
  digits.foldl (fun value digit => value * 10 + (digit.toNat - 0x30)) 0

def missingDigit (text : List Char) : Fault :=
  if text.isEmpty then .unfinished .value else .broken .number

def digits (text : List Char) : Except Fault (List Char × List Char) :=
  match text.span Char.isDigit with
  | ([], rest) => .error (missingDigit rest)
  | (run, rest) => .ok (run, rest)

def wholeDigits (text : List Char) : Except Fault (List Char × List Char) := do
  let (run, rest) ← digits text
  match run with
  | '0' :: _ :: _ => .error (.broken .number)
  | _ => .ok (run, rest)

def fraction? (text : List Char) : Except Fault (Option (List Char) × List Char) :=
  match text with
  | '.' :: rest => do
    let (run, after) ← digits rest
    return (some run, after)
  | _ => .ok (none, text)

def exponent? (text : List Char) : Except Fault (Option Int × List Char) :=
  match text with
  | letter :: rest =>
    if letter = 'e' ∨ letter = 'E' then do
      let (negative, rest) :=
        match rest with
        | '+' :: after => (false, after)
        | '-' :: after => (true, after)
        | _ => (false, rest)
      let (run, after) ← digits rest
      let power : Int := digitsValue run
      return (some (if negative then -power else power), after)
    else .ok (none, text)
  | [] => .ok (none, text)

def assemble (whole : List Char) (fraction : Option (List Char)) (exponent : Option Int) :
    Except Fault Number :=
  let (significand, dropped) := collect 0 whole
  match fraction, exponent, dropped with
  | none, none, [] => .ok (.integer significand)
  | _, _, _ => do
    let run := fraction.getD []
    let (significand, unread) := collect significand run
    let places : Int := (run.length : Int) - unread.length
    let float ← scale significand (dropped.length - places + exponent.getD 0)
    return .float float

/-- Puts the minus sign on. Zero and integers below `-2 ^ 63` become floats. -/
def Number.negate : Number → Number
  | .integer value =>
    if value = 0 ∨ 2 ^ 63 < value then .float (Binary64.ofInt value).negate else .integer (-value)
  | .float value => .float value.negate

def magnitude (text : List Char) : Except Fault (Number × List Char) := do
  let (whole, rest) ← wholeDigits text
  let (fraction, rest) ← fraction? rest
  let (exponent, rest) ← exponent? rest
  let number ← assemble whole fraction exponent
  return (number, rest)

def number (text : List Char) : Except Fault (Number × List Char) :=
  match text with
  | '-' :: rest => do
    let (number, rest) ← magnitude rest
    return (number.negate, rest)
  | _ => magnitude text

def skipDigits (text : List Char) : Except Fault (List Char) :=
  match text.span Char.isDigit with
  | ([], _) => .error (.broken .number)
  | (_, rest) => .ok rest

def skipWhole (text : List Char) : Except Fault (List Char) :=
  match text with
  | '0' :: digit :: rest => if digit.isDigit then .error (.broken .number) else .ok (digit :: rest)
  | _ => skipDigits text

def skipFraction (text : List Char) : Except Fault (List Char) :=
  match text with
  | '.' :: rest => skipDigits rest
  | _ => .ok text

def skipExponent (text : List Char) : Except Fault (List Char) :=
  match text with
  | letter :: rest =>
    if letter = 'e' ∨ letter = 'E' then
      match rest with
      | '+' :: after => skipDigits after
      | '-' :: after => skipDigits after
      | _ => skipDigits rest
    else .ok text
  | [] => .ok text

def skipNumber (text : List Char) : Except Fault (List Char) := do
  let text :=
    match text with
    | '-' :: rest => rest
    | _ => text
  let rest ← skipWhole text
  let rest ← skipFraction rest
  skipExponent rest

end TelemetryRelay.Json
