import TelemetryRelay.Power

/-!
Punycode: a text as its ASCII characters followed by the places and codes of the others, in the
order of the codes, as differences in a mixed radix that adapts to their size.
-/

namespace TelemetryRelay.Url.Punycode

def digit (value : Nat) : Char :=
  if value < 26 then Char.ofNat (0x61 + value) else Char.ofNat (0x30 + (value - 26))

def digit? (char : Char) : Option Nat :=
  if 'a' ≤ char ∧ char ≤ 'z' then some (char.toNat - 0x61)
  else if 'A' ≤ char ∧ char ≤ 'Z' then some (char.toNat - 0x41)
  else if '0' ≤ char ∧ char ≤ '9' then some (char.toNat - 0x30 + 26)
  else none

def threshold (step bias : Nat) : Nat :=
  max 1 (min 26 (step - bias))

def reduce : Nat → Nat → Nat → Nat × Nat
  | 0, difference, steps => (difference, steps)
  | fuel + 1, difference, steps =>
    if 455 < difference then reduce fuel (difference / 35) (steps + 36) else (difference, steps)

def adapt (difference count : Nat) (first : Bool) : Nat :=
  let damped := if first then difference / 700 else difference / 2
  let (rest, steps) := reduce damped (damped + damped / count) 0
  steps + 36 * rest / (rest + 38)

def digits : Nat → Nat → Nat → Nat → List Char
  | 0, _, _, difference => [digit difference]
  | fuel + 1, bias, step, difference =>
    let least := threshold step bias
    if difference < least then [digit difference]
    else
      digit (least + (difference - least) % (36 - least)) ::
        digits fuel bias (step + 36) ((difference - least) / (36 - least))

structure Progress where
  output : List Char
  difference : Nat
  bias : Nat
  placed : Nat

def pass (basic code : Nat) (progress : Progress) (char : Char) : Progress :=
  if char.toNat < code then { progress with difference := progress.difference + 1 }
  else if char.toNat = code then
    {
      output := progress.output ++ digits progress.difference progress.bias 36 progress.difference
      difference := 0
      bias := adapt progress.difference (progress.placed + 1) (progress.placed == basic)
      placed := progress.placed + 1
    }
  else progress

def place (text : List Char) (basic : Nat) : List Nat → Nat → Progress → List Char
  | [], _, progress => progress.output
  | next :: codes, code, progress =>
    let advanced :=
      { progress with
        difference := progress.difference + (next - code) * (progress.placed + 1) }
    let passed := text.foldl (pass basic next) advanced
    place text basic codes (next + 1) { passed with difference := passed.difference + 1 }

def codes (text : List Char) : List Nat :=
  (((text.map Char.toNat).filter fun code => 0x80 ≤ code).mergeSort fun left right =>
    decide (left ≤ right)).eraseDups

def encode (text : List Char) : List Char :=
  let basic := text.filter fun char => char.toNat < 0x80
  let start := if basic.isEmpty then [] else basic ++ ['-']
  place text basic.length (codes text) 0x80 ⟨start, 0, 72, basic.length⟩

def addDifference? (bias : Nat) : List Char → Nat → Nat → Nat → Option (Nat × List Char)
  | [], _, _, _ => none
  | char :: rest, step, weight, sum => do
    let value ← digit? char
    let sum := sum + value * weight
    let least := threshold step bias
    if 2 ^ 32 ≤ sum then none
    else if value < least then some (sum, rest)
    else if 2 ^ 32 ≤ weight * (36 - least) then none
    else addDifference? bias rest (step + 36) (weight * (36 - least)) sum

/-- Reads differences and puts the characters at their places. `fuel` bounds their number. -/
def insertAll : Nat → List Char → Nat → Nat → Nat → List Char → Option (List Char)
  | _, [], _, _, _, output => some output
  | 0, _ :: _, _, _, _, _ => none
  | fuel + 1, text, bias, code, index, output => do
    let (total, rest) ← addDifference? bias text 36 1 index
    let count := output.length + 1
    let code := code + total / count
    let place := total % count
    if code < 0xD800 ∨ (0xDFFF < code ∧ code < 0x110000) then
      insertAll fuel rest (adapt (total - index) count (index == 0)) code (place + 1)
        (output.take place ++ Char.ofNat code :: output.drop place)
    else none

/-- Reads a text. The last hyphen parts the ASCII characters from the differences; there is none
where there are no such characters. -/
def decode (text : List Char) : Option (List Char) :=
  let (tail, front) := text.reverse.span (· ≠ '-')
  let basic := (front.drop 1).reverse
  if basic.isEmpty && !front.isEmpty then none
  else insertAll tail.length tail.reverse 72 0x80 0 basic

end TelemetryRelay.Url.Punycode
