import Std.Data.TreeMap
import TelemetryRelay.Text.Hex

/-!
Properties of characters, written down as runs. A table is a text of words. A word names the codes
it is about, as `first`, `first-last` or `first-last/step`, and after an equals sign the value that
the property has there. All numbers are hexadecimal.
-/

namespace TelemetryRelay.Text

structure Run (α : Type) where
  first : Nat
  last : Nat
  step : Nat
  value : α
deriving Repr

/-- Runs by their first code. None begins inside another one. -/
abbrev Runs (α : Type) := Std.TreeMap Nat (Run α)

variable {α : Type}

def Run.holds (run : Run α) (code : Nat) : Bool :=
  run.first ≤ code && code ≤ run.last && (code - run.first) % run.step == 0

def Run.ofWord? (value? : List Char → Option α) (word : List Char) : Option (Run α) := do
  let (place, written) := word.span (· ≠ '=')
  let (range, step) := place.span (· ≠ '/')
  let (first, last) := range.span (· ≠ '-')
  let first ← Hex.number? first
  let last ← if last.isEmpty then some first else Hex.number? (last.drop 1)
  let step ← if step.isEmpty then some 1 else Hex.number? (step.drop 1)
  let value ← value? (written.drop 1)
  return ⟨first, last, step, value⟩

namespace Runs

def ofText (value? : List Char → Option α) (table : String) : Runs α :=
  (table.toList.splitOnP Char.isWhitespace).foldl
    (fun runs word =>
      match Run.ofWord? value? word with
      | some run => runs.insert run.first run
      | none => runs)
    ∅

def run? (runs : Runs α) (code : Nat) : Option (Run α) :=
  match runs.getEntryLE? code with
  | some (_, run) => if run.holds code then some run else none
  | none => none

def value? (runs : Runs α) (code : Nat) : Option α :=
  (runs.run? code).map Run.value

def contains (runs : Runs α) (code : Nat) : Bool :=
  (runs.run? code).isSome

end Runs

def Runs.ofCodes (table : String) : Runs Unit :=
  ofText (fun _ => some ()) table

end TelemetryRelay.Text
