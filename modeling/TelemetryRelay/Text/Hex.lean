/-!
Hexadecimal digits.
-/

namespace TelemetryRelay.Text.Hex

def value? (char : Char) : Option Nat :=
  if '0' ≤ char ∧ char ≤ '9' then some (char.toNat - 0x30)
  else if 'a' ≤ char ∧ char ≤ 'f' then some (char.toNat - 0x61 + 10)
  else if 'A' ≤ char ∧ char ≤ 'F' then some (char.toNat - 0x41 + 10)
  else none

def number? (digits : List Char) : Option Nat :=
  if digits.isEmpty then none
  else
    digits.foldlM (fun number char => (value? char).map fun digit => number * 16 + digit) 0

def upper (value : Nat) : Char :=
  if value < 10 then Char.ofNat (0x30 + value) else Char.ofNat (0x41 + (value - 10))

theorem value?_upper (value : Nat) (bounded : value < 16) : value? (upper value) = some value := by
  have all : ∀ digit : Fin 16, value? (upper digit.val) = some digit.val := by decide
  exact all ⟨value, bounded⟩

end TelemetryRelay.Text.Hex
