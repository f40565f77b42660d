import TelemetryRelay.Binary64

/-!
Bounds on rounded numbers. A ratio below a power of two rounds to no more than that power, so a
number of 64 bits, and what is left of it after divisions by numbers that are at least one, is far
from the greatest finite number.
-/

namespace TelemetryRelay.Binary64

theorem scaled_lt {numerator denominator left right leftOther rightOther : Nat}
    (below : numerator * 2 ^ left < denominator * 2 ^ right)
    (within : right + leftOther ≤ rightOther + left) :
    numerator * 2 ^ leftOther < denominator * 2 ^ rightOther := by
  have positive : 0 < 2 ^ left := Nat.two_pow_pos left
  apply Nat.lt_of_mul_lt_mul_right (a := 2 ^ left)
  calc numerator * 2 ^ leftOther * 2 ^ left
      = numerator * 2 ^ left * 2 ^ leftOther := Nat.mul_right_comm _ _ _
    _ < denominator * 2 ^ right * 2 ^ leftOther :=
        Nat.mul_lt_mul_of_pos_right below (Nat.two_pow_pos leftOther)
    _ = denominator * 2 ^ (right + leftOther) := by rw [Nat.mul_assoc, ← Nat.pow_add]
    _ ≤ denominator * 2 ^ (rightOther + left) :=
        Nat.mul_le_mul_left _ (Nat.pow_le_pow_right (by decide) within)
    _ = denominator * 2 ^ rightOther * 2 ^ left := by rw [Nat.pow_add, Nat.mul_assoc]

theorem binaryOrder_one {number : Nat} (positive : number ≠ 0) :
    binaryOrder number 1 = number.log2 := by
  have below : 2 ^ number.log2 ≤ number := Nat.log2_self_le positive
  have one : Nat.log2 1 = 0 := by decide
  simp [binaryOrder, one, below]

section

variable {numerator denominator power : Nat}

theorem binaryOrder_lt (positive : numerator ≠ 0) (below : numerator < denominator * 2 ^ power) :
    binaryOrder numerator denominator < power := by
  have above : denominator < 2 ^ (denominator.log2 + 1) := Nat.lt_log2_self
  have bounded : numerator < 2 ^ (denominator.log2 + 1 + power) := by
    rw [Nat.pow_add]
    exact Nat.lt_of_lt_of_le below (Nat.mul_le_mul_right _ (Nat.le_of_lt above))
  have order : numerator.log2 < denominator.log2 + 1 + power :=
    (Nat.log2_lt positive).mpr bounded
  simp only [binaryOrder]
  by_cases exact : (numerator.log2 : Int) - denominator.log2 = power
  · -- The estimate is one too great: the ratio lies below that power.
    rw [exact, if_neg (by simpa using below)]
    omega
  · split <;> omega

theorem lt_binaryOrder (numerator : Nat) (whole : denominator ≠ 0) :
    numerator * 2 ^ (-(binaryOrder numerator denominator + 1)).toNat <
      denominator * 2 ^ (binaryOrder numerator denominator + 1).toNat := by
  have above : numerator < 2 ^ (numerator.log2 + 1) := Nat.lt_log2_self
  have below : 2 ^ denominator.log2 ≤ denominator := Nat.log2_self_le whole
  have bounded : numerator * 2 ^ denominator.log2 < denominator * 2 ^ (numerator.log2 + 1) :=
    calc numerator * 2 ^ denominator.log2
        < 2 ^ (numerator.log2 + 1) * 2 ^ denominator.log2 :=
          Nat.mul_lt_mul_of_pos_right above (Nat.two_pow_pos _)
      _ ≤ 2 ^ (numerator.log2 + 1) * denominator := Nat.mul_le_mul_left _ below
      _ = denominator * 2 ^ (numerator.log2 + 1) := Nat.mul_comm _ _
  simp only [binaryOrder]
  split
  · exact scaled_lt bounded (by omega)
  · rename_i less
    exact scaled_lt (Nat.lt_of_not_le less) (by omega)

theorem roundDivision_le {bound : Nat} (below : numerator < denominator * bound) :
    roundDivision numerator denominator ≤ bound := by
  have quotient : numerator / denominator < bound := Nat.div_lt_of_lt_mul below
  simp only [roundDivision]
  split <;> omega

theorem le_roundDivision (numerator denominator : Nat) :
    numerator / denominator ≤ roundDivision numerator denominator := by
  simp only [roundDivision]
  split <;> omega

theorem roundedMagnitude_le (positive : numerator ≠ 0)
    (below : numerator < denominator * 2 ^ power) :
    roundedMagnitude numerator denominator ≤ (1023 + power) * 2 ^ 52 := by
  have whole : denominator ≠ 0 := by
    rintro rfl
    simp at below
  have order := binaryOrder_lt positive below
  have ratio := lt_binaryOrder numerator whole
  simp only [roundedMagnitude]
  generalize binaryOrder numerator denominator = exponent at order ratio
  have quotient : roundDivision (numerator * 2 ^ (-max (exponent - 52) (-1074)).toNat)
      (denominator * 2 ^ (max (exponent - 52) (-1074)).toNat) ≤ 2 ^ 53 := by
    apply roundDivision_le
    rw [Nat.mul_assoc, ← Nat.pow_add]
    exact scaled_lt ratio (by omega)
  apply Nat.le_trans (Nat.min_le_left _ _)
  omega

end

def AtMost (power : Nat) (number : Binary64) : Prop :=
  number.magnitude.val ≤ (1023 + power) * 2 ^ 52

theorem AtMost.isFinite {power : Nat} {number : Binary64} (bounded : number.AtMost power)
    (small : power ≤ 1023) : number.isFinite = true := by
  apply decide_eq_true
  unfold AtMost at bounded
  unfold infinity
  omega

theorem atMost_ofRatio (negative : Bool) {numerator denominator power : Nat}
    (below : numerator < denominator * 2 ^ power) :
    (ofRatio negative numerator denominator).AtMost power := by
  unfold AtMost ofRatio
  split
  · exact Nat.zero_le _
  · rename_i positive
    exact roundedMagnitude_le positive below

theorem mantissa_lt (number : Binary64) : number.mantissa < 2 ^ 53 := by
  simp only [mantissa]
  split <;> omega

theorem AtMost.ratio {power : Nat} {number : Binary64} (bounded : number.AtMost power) :
    number.numerator < number.denominator * 2 ^ (power + 1) := by
  unfold AtMost at bounded
  have exponent : number.exponent ≤ (power : Int) - 52 := by
    simp only [Binary64.exponent]
    omega
  have mantissa : number.mantissa * 2 ^ 0 < 1 * 2 ^ 53 := by
    simpa using number.mantissa_lt
  have scaled : number.mantissa * 2 ^ number.exponent.toNat <
      1 * 2 ^ ((-number.exponent).toNat + (power + 1)) :=
    scaled_lt mantissa (by omega)
  rwa [Nat.one_mul, Nat.pow_add] at scaled

def AtLeastOne (number : Binary64) : Prop :=
  1023 * 2 ^ 52 ≤ number.magnitude.val

theorem AtLeastOne.ratio {number : Binary64} (bounded : number.AtLeastOne) :
    number.denominator ≤ number.numerator := by
  unfold AtLeastOne at bounded
  have exponent : -52 ≤ number.exponent := by
    simp only [Binary64.exponent]
    omega
  have mantissa : 2 ^ 52 ≤ number.mantissa := by
    simp only [Binary64.mantissa]
    split <;> omega
  calc number.denominator
      ≤ 2 ^ (52 + number.exponent.toNat) := Nat.pow_le_pow_right (by decide) (by omega)
    _ = 2 ^ 52 * 2 ^ number.exponent.toNat := Nat.pow_add _ _ _
    _ ≤ number.numerator := Nat.mul_le_mul_right _ mantissa

def lastPlace (number : Nat) : Int := (number.log2 : Int) - 52

def significand (number : Nat) : Nat :=
  roundDivision (number * 2 ^ (-lastPlace number).toNat) (2 ^ (lastPlace number).toNat)

theorem two_pow_le_significand {number : Nat} (positive : number ≠ 0) :
    2 ^ 52 ≤ significand number := by
  have below : 2 ^ number.log2 ≤ number := Nat.log2_self_le positive
  refine Nat.le_trans ?_ (le_roundDivision _ _)
  rw [Nat.le_div_iff_mul_le (Nat.two_pow_pos _), ← Nat.pow_add]
  apply Nat.le_of_not_lt
  intro less
  rw [← Nat.one_mul (2 ^ (52 + _))] at less
  have scaled : number * 2 ^ 0 < 1 * 2 ^ number.log2 :=
    scaled_lt less (by unfold lastPlace; omega)
  omega

theorem significand_le (number : Nat) : significand number ≤ 2 ^ 53 := by
  have above : number * 2 ^ 0 < 1 * 2 ^ (number.log2 + 1) := by simpa using Nat.lt_log2_self
  apply roundDivision_le
  rw [← Nat.pow_add, ← Nat.one_mul (2 ^ (_ + 53))]
  exact scaled_lt above (by unfold lastPlace; omega)

theorem magnitude_ofNat {number : Nat} (positive : number ≠ 0) :
    (ofNat number).magnitude.val =
      min ((number.log2 + 1022) * 2 ^ 52 + significand number) infinity := by
  have unit : max ((number.log2 : Int) - 52) (-1074) = lastPlace number := by
    unfold lastPlace
    omega
  have place : (lastPlace number + 1074).toNat = number.log2 + 1022 := by
    unfold lastPlace
    omega
  simp only [ofNat, ofRatio, positive, if_false, roundedMagnitude, binaryOrder_one positive, unit,
    place, Nat.one_mul, significand]

theorem AtMost.divide {power : Nat} {left right : Binary64} (bounded : left.AtMost power)
    (large : right.AtLeastOne) : (left.divide right).AtMost (power + 1) := by
  have positive : 0 < right.denominator := Nat.two_pow_pos _
  apply atMost_ofRatio
  calc left.numerator * right.denominator
      < left.denominator * 2 ^ (power + 1) * right.denominator :=
        Nat.mul_lt_mul_of_pos_right bounded.ratio positive
    _ ≤ left.denominator * 2 ^ (power + 1) * right.numerator :=
        Nat.mul_le_mul_left _ large.ratio
    _ = left.denominator * right.numerator * 2 ^ (power + 1) := Nat.mul_right_comm _ _ _

theorem atMost_ofNat {number power : Nat} (small : number < 2 ^ power) :
    (ofNat number).AtMost power :=
  atMost_ofRatio false (by simpa using small)

theorem isFinite_ofUInt64 (number : UInt64) : (ofNat number.toNat).isFinite = true :=
  (atMost_ofNat number.toNat_lt).isFinite (by decide)

end TelemetryRelay.Binary64
