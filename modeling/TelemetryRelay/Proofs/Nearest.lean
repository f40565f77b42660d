import Mathlib.Algebra.Order.Field.Power
import Mathlib.Data.Rat.Cast.Order
import Mathlib.Tactic.Linarith
import Mathlib.Tactic.Ring
import TelemetryRelay.Proofs.Rounding

/-!
Natural numbers rounded to binary64. What a natural number is rounded to is the finite number that
is nearest to it, and of two nearest ones the one with an even significand; so rounding keeps the
order of natural numbers, and numbers of 53 bits are not changed by it.
-/

namespace TelemetryRelay.Binary64

def rational (number : Binary64) : ℚ :=
  (if number.negative then -1 else 1) * number.mantissa * 2 ^ number.exponent

/-- The number is finite, no finite number is nearer to the value, and it has an even significand if
another one is as near. -/
structure IsNearest (number : Binary64) (value : ℚ) : Prop where
  finite : number.isFinite = true
  nearest : ∀ other : Binary64, other.isFinite = true →
    |number.rational - value| ≤ |other.rational - value|
  even : ∀ other : Binary64, other.isFinite = true → other.rational ≠ number.rational →
    |other.rational - value| = |number.rational - value| → number.mantissa % 2 = 0

theorem IsNearest.rational_le {number other : Binary64} {value otherValue : ℚ}
    (near : number.IsNearest value) (otherNear : other.IsNearest otherValue)
    (order : value < otherValue) : number.rational ≤ other.rational := by
  have left := near.nearest other otherNear.finite
  have right := otherNear.nearest number near.finite
  by_contra less
  rw [not_le] at less
  rw [← sq_le_sq] at left right
  nlinarith

theorem multiple_cases (quotient candidate divisor : Int) (positive : 0 < divisor) :
    (candidate = quotient ∧ candidate * divisor = quotient * divisor) ∨
    (candidate = quotient + 1 ∧ candidate * divisor = quotient * divisor + divisor) ∨
    candidate * divisor ≤ quotient * divisor - divisor ∨
    quotient * divisor + 2 * divisor ≤ candidate * divisor := by
  rcases lt_trichotomy candidate quotient with less | same | more
  · have scaled := Int.mul_le_mul_of_nonneg_right (Int.add_one_le_of_lt less) positive.le
    right; right; left
    linarith
  · subst same
    simp
  · by_cases next : candidate = quotient + 1
    · subst next
      right; left
      exact ⟨rfl, by ring⟩
    · have beyond : quotient + 2 ≤ candidate := by omega
      have scaled := Int.mul_le_mul_of_nonneg_right beyond positive.le
      right; right; right
      linarith

theorem roundDivision_nearest (numerator : Nat) {denominator : Nat} (positive : 0 < denominator)
    (candidate : Int) :
    ((roundDivision numerator denominator : Int) * denominator - numerator).natAbs ≤
        (candidate * denominator - numerator).natAbs ∧
      (candidate ≠ roundDivision numerator denominator →
        (candidate * denominator - numerator).natAbs =
          ((roundDivision numerator denominator : Int) * denominator - numerator).natAbs →
        roundDivision numerator denominator % 2 = 0) := by
  have remainder := Nat.mod_lt numerator positive
  have division : (numerator : Int) =
      (numerator / denominator : Nat) * denominator + (numerator % denominator : Nat) := by
    exact_mod_cast (Nat.div_add_mod' numerator denominator).symm
  have places := multiple_cases (numerator / denominator : Nat) candidate denominator
    (by exact_mod_cast positive)
  simp only [roundDivision]
  generalize numerator / denominator = quotient at *
  generalize numerator % denominator = rest at *
  have next : ((quotient + 1 : Nat) : Int) * denominator =
      (quotient : Int) * denominator + denominator := by
    push_cast
    ring
  split
  · omega
  · rw [next]
    omega

section

variable {number : Nat} (positive : number ≠ 0) (small : number < 2 ^ 64)

include positive small

theorem mantissa_ofNat :
    ((ofNat number).mantissa = significand number ∧
        (ofNat number).exponent = lastPlace number) ∨
      (significand number = 2 ^ 53 ∧ (ofNat number).mantissa = 2 ^ 52 ∧
        (ofNat number).exponent = lastPlace number + 1) := by
  have order : number.log2 < 64 := (Nat.log2_lt positive).mpr small
  have least := two_pow_le_significand positive
  have most := significand_le number
  have bounded : (number.log2 + 1022) * 2 ^ 52 + significand number ≤ infinity := by
    unfold infinity
    omega
  have large : ¬(number.log2 + 1022) * 2 ^ 52 + significand number < 2 ^ 52 := by omega
  simp only [mantissa, exponent, magnitude_ofNat positive, Nat.min_eq_left bounded, lastPlace,
    if_neg large]
  rcases Nat.lt_or_eq_of_le most with less | full
  · left
    omega
  · right
    omega

theorem rational_ofNat :
    (ofNat number).rational = significand number * 2 ^ lastPlace number := by
  have unsigned : (ofNat number).negative = false := by
    simp [ofNat, ofRatio, positive]
  rw [rational, unsigned, if_neg Bool.false_ne_true, one_mul]
  rcases mantissa_ofNat positive small with ⟨mantissa, exponent⟩ | ⟨full, mantissa, exponent⟩
  · rw [mantissa, exponent]
  · rw [full, mantissa, exponent, zpow_add_one₀ two_ne_zero]
    push_cast
    ring

theorem even_mantissa_ofNat (even : significand number % 2 = 0) :
    (ofNat number).mantissa % 2 = 0 := by
  rcases mantissa_ofNat positive small with ⟨mantissa, -⟩ | ⟨-, mantissa, -⟩
  · rwa [mantissa]
  · rw [mantissa]

end

theorem two_zpow (power : Int) : (2 : ℚ) ^ power * 2 ^ (-power).toNat = 2 ^ power.toNat := by
  rw [← zpow_natCast, ← zpow_natCast, ← zpow_add₀ two_ne_zero]
  congr 1
  omega

theorem distance_eq (number : Nat) (candidate : Int) :
    |candidate * 2 ^ lastPlace number - (number : ℚ)| =
      ((candidate * (2 ^ (lastPlace number).toNat : Nat) -
        (number * 2 ^ (-lastPlace number).toNat : Nat)).natAbs : ℚ) /
          2 ^ (-lastPlace number).toNat := by
  have positive : (0 : ℚ) < 2 ^ (-lastPlace number).toNat := by positivity
  rw [eq_div_iff positive.ne', Nat.cast_natAbs, ← abs_of_pos positive, ← abs_mul, sub_mul,
    mul_assoc, two_zpow]
  push_cast
  rfl

theorem exists_rational_eq {number : Nat} {other : Binary64}
    (coarse : lastPlace number ≤ other.exponent) :
    ∃ candidate : Int, other.rational = candidate * 2 ^ lastPlace number := by
  obtain ⟨more, shift⟩ := Int.le.dest coarse
  refine ⟨(if other.negative then -1 else 1) * other.mantissa * 2 ^ more, ?_⟩
  rw [rational, ← shift, zpow_add₀ two_ne_zero, zpow_natCast]
  push_cast
  ring

theorem abs_rational_lt {number : Nat} {other : Binary64}
    (fine : other.exponent < lastPlace number) :
    |other.rational| < 2 ^ 52 * 2 ^ lastPlace number := by
  have mantissa : (other.mantissa : ℚ) < 2 ^ 53 := by exact_mod_cast other.mantissa_lt
  have exponent : (2 : ℚ) ^ other.exponent ≤ 2 ^ (lastPlace number - 1) :=
    zpow_le_zpow_right₀ (by norm_num) (by omega)
  have sign : |if other.negative then (-1 : ℚ) else 1| = 1 := by split <;> simp
  rw [rational, abs_mul, abs_mul, sign, one_mul, Nat.abs_cast, abs_of_pos (by positivity)]
  calc (other.mantissa : ℚ) * 2 ^ other.exponent
      < 2 ^ 53 * 2 ^ other.exponent := by gcongr
    _ ≤ 2 ^ 53 * 2 ^ (lastPlace number - 1) := by gcongr
    _ = 2 ^ 52 * 2 ^ lastPlace number := by
        rw [zpow_sub_one₀ two_ne_zero]
        ring

theorem significand_nearest (number : Nat) (candidate : Int) :
    |significand number * 2 ^ lastPlace number - (number : ℚ)| ≤
        |candidate * 2 ^ lastPlace number - (number : ℚ)| ∧
      (candidate ≠ significand number →
        |candidate * 2 ^ lastPlace number - (number : ℚ)| =
          |significand number * 2 ^ lastPlace number - (number : ℚ)| →
        significand number % 2 = 0) := by
  have positive : (0 : ℚ) < 2 ^ (-lastPlace number).toNat := by positivity
  have rounded := distance_eq number (significand number)
  rw [Int.cast_natCast] at rounded
  obtain ⟨nearest, even⟩ := roundDivision_nearest
    (number * 2 ^ (-lastPlace number).toNat)
    (Nat.two_pow_pos (lastPlace number).toNat) candidate
  rw [rounded, distance_eq number candidate]
  constructor
  · gcongr
    exact nearest
  · intro differ same
    rw [div_left_inj' positive.ne', Nat.cast_inj] at same
    exact even differ same

theorem significand_nearer {number : Nat} (positive : number ≠ 0) {other : Binary64}
    (fine : other.exponent < lastPlace number) :
    |significand number * 2 ^ lastPlace number - (number : ℚ)| < |other.rational - number| := by
  have below : (2 : ℚ) ^ 52 * 2 ^ lastPlace number ≤ number := by
    have power : (2 : ℚ) ^ number.log2 ≤ number := by
      exact_mod_cast Nat.log2_self_le positive
    have split : (2 : ℚ) ^ 52 * 2 ^ lastPlace number = 2 ^ number.log2 := by
      rw [← zpow_natCast, ← zpow_natCast, ← zpow_add₀ two_ne_zero]
      congr 1
      unfold lastPlace
      omega
    rwa [split]
  have close := (significand_nearest number (2 ^ 52)).1
  rw [Int.cast_pow, Int.cast_ofNat] at close
  have far := (abs_lt.mp (abs_rational_lt fine)).2
  rw [abs_of_nonpos (sub_nonpos.mpr below)] at close
  calc |significand number * 2 ^ lastPlace number - (number : ℚ)|
      ≤ -(2 ^ 52 * 2 ^ lastPlace number - number) := close
    _ < number - other.rational := by linarith
    _ ≤ |other.rational - number| := by
        rw [abs_sub_comm]
        exact le_abs_self _

/-- A natural number of 64 bits is rounded to nearest, ties to even. -/
theorem isNearest_ofNat {number : Nat} (small : number < 2 ^ 64) :
    (ofNat number).IsNearest number := by
  have finite : (ofNat number).isFinite = true := (atMost_ofNat small).isFinite (by decide)
  by_cases positive : number = 0
  · subst positive
    have nothing : (ofNat 0).rational = 0 := by simp [rational, mantissa, ofNat, ofRatio]
    exact ⟨finite, fun other _ => by simp [nothing], fun _ _ _ _ => by decide⟩
  have worth := rational_ofNat positive small
  -- What has a finer last place lies below the binade; all else is a multiple of the last place.
  refine ⟨finite, fun other _ => ?_, fun other _ differ same => ?_⟩
  · rw [worth]
    by_cases fine : other.exponent < lastPlace number
    · exact (significand_nearer positive fine).le
    · obtain ⟨candidate, multiple⟩ := exists_rational_eq (not_lt.mp fine)
      rw [multiple]
      exact (significand_nearest number candidate).1
  · rw [worth] at differ same
    by_cases fine : other.exponent < lastPlace number
    · exact absurd same (significand_nearer positive fine).ne'
    · obtain ⟨candidate, multiple⟩ := exists_rational_eq (not_lt.mp fine)
      rw [multiple] at differ same
      refine even_mantissa_ofNat positive small
        ((significand_nearest number candidate).2 ?_ same)
      rintro rfl
      exact differ (by rw [Int.cast_natCast])

theorem rational_ofNat_le {number other : Nat} (order : number ≤ other) (small : other < 2 ^ 64) :
    (ofNat number).rational ≤ (ofNat other).rational := by
  rcases Nat.lt_or_eq_of_le order with less | rfl
  · have near := isNearest_ofNat (Nat.lt_trans less small)
    exact near.rational_le (isNearest_ofNat small) (by exact_mod_cast less)
  · exact le_rfl

theorem rational_ofNat_of_le {number : Nat} (small : number ≤ 2 ^ 53) :
    (ofNat number).rational = number := by
  by_cases positive : number = 0
  · subst positive
    simp [rational, mantissa, ofNat, ofRatio]
  have exact : ∃ candidate : Int, candidate * 2 ^ lastPlace number = (number : ℚ) := by
    rcases Nat.lt_or_eq_of_le small with less | rfl
    · have order : number.log2 < 53 := (Nat.log2_lt positive).mpr less
      have whole : (lastPlace number).toNat = 0 := by
        unfold lastPlace
        omega
      have shift := two_zpow (lastPlace number)
      rw [whole, pow_zero, mul_comm] at shift
      refine ⟨number * 2 ^ (-lastPlace number).toNat, ?_⟩
      push_cast
      rw [mul_assoc, shift, mul_one]
    · have place : lastPlace (2 ^ 53) = 1 := by decide
      refine ⟨2 ^ 52, ?_⟩
      rw [place]
      norm_num
  obtain ⟨candidate, multiple⟩ := exact
  have close := (significand_nearest number candidate).1
  rw [multiple, sub_self, abs_zero] at close
  have zero := le_antisymm close (abs_nonneg _)
  rw [rational_ofNat positive (by omega)]
  exact sub_eq_zero.mp (abs_eq_zero.mp zero)

end TelemetryRelay.Binary64
