import TelemetryRelay.Power

/-!
Digests of 256 bits. A digest is a number; its bytes and its hexadecimal digits are written with the
most significant first, so digests order as their byte strings do.
-/

namespace TelemetryRelay

def bigEndian : Nat → Nat → List UInt8
  | 0, _ => []
  | count + 1, number => bigEndian count (number / 256) ++ [UInt8.ofNat number]

@[simp] theorem length_bigEndian (count number : Nat) :
    (bigEndian count number).length = count := by
  induction count generalizing number with
  | zero => rfl
  | succ count ih => simp [bigEndian, ih]

theorem bigEndian_inj {count left right : Nat} (leftFits : left < 256 ^ count)
    (rightFits : right < 256 ^ count) (same : bigEndian count left = bigEndian count right) :
    left = right := by
  induction count generalizing left right with
  | zero => omega
  | succ count ih =>
    rw [Nat.pow_succ] at leftFits rightFits
    simp only [bigEndian] at same
    obtain ⟨front, last⟩ := List.append_inj' same rfl
    have quotients : left / 256 = right / 256 := ih (by omega) (by omega) front
    have remainders : left % 256 = right % 256 := by
      have bytes := congrArg UInt8.toNat (List.cons.inj last).1
      simpa using bytes
    omega

structure Digest where
  number : Fin (2 ^ 256)
deriving DecidableEq, Repr

namespace Digest

def bytes (digest : Digest) : List UInt8 :=
  bigEndian 32 digest.number.val

@[simp] theorem length_bytes (digest : Digest) : digest.bytes.length = 32 :=
  length_bigEndian 32 _

theorem bytes_inj {left right : Digest} (same : left.bytes = right.bytes) : left = right := by
  have bound : 2 ^ 256 ≤ 256 ^ 32 := by decide
  have numbers : left.number.val = right.number.val :=
    bigEndian_inj (Nat.lt_of_lt_of_le left.number.isLt bound)
      (Nat.lt_of_lt_of_le right.number.isLt bound) same
  cases left
  cases right
  exact congrArg Digest.mk (Fin.ext numbers)

def hex (digest : Digest) : String :=
  let digits := Nat.toDigits 16 digest.number.val
  String.ofList (List.replicate (64 - digits.length) '0' ++ digits)

end Digest

end TelemetryRelay
