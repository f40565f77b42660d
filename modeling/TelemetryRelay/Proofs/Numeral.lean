import TelemetryRelay.Line

/-!
The characters of the numbers on a line. A finite value and a time are written with digits, a point
and a minus sign alone, so they hold no separator of the line format and are no special number.
-/

namespace TelemetryRelay

def isNumeral (char : Char) : Bool :=
  char.isDigit || char == '.' || char == '-'

theorem isNumeral_of_isDigit {char : Char} (digit : char.isDigit = true) :
    isNumeral char = true := by
  simp [isNumeral, digit]

namespace Decimal

theorem isDigit_of_mem_shortest {tie : Tie} {number : Binary64} {char : Char}
    (member : char ∈ (shortest tie number).digits) : char.isDigit = true := by
  simp only [shortest] at member
  split at member
  · simp at member
  · rename_i significand unit _
    have kept : char ∈ (Nat.toDigits 10 significand).reverse :=
      (List.dropWhile_sublist _).subset (List.mem_reverse.mp member)
    exact Nat.isDigit_of_mem_toDigits (by decide) (by decide) (List.mem_reverse.mp kept)

theorem isNumeral_of_mem_plain {decimal : Decimal} {char : Char}
    (digits : ∀ digit ∈ decimal.digits, digit.isDigit = true)
    (member : char ∈ decimal.plain false) : isNumeral char = true := by
  have zero : isNumeral '0' = true := by decide
  have point : isNumeral '.' = true := by decide
  have digit : char ∈ decimal.digits → isNumeral char = true := fun shown =>
    isNumeral_of_isDigit (digits char shown)
  simp only [plain] at member
  split at member
  · simp only [List.mem_cons, List.mem_append, List.mem_replicate] at member
    rcases member with rfl | rfl | ⟨-, rfl⟩ | shown
    · exact zero
    · exact point
    · exact zero
    · exact digit shown
  · split at member
    · simp only [Bool.false_eq_true, if_false, List.append_nil, List.mem_append,
        List.mem_replicate] at member
      rcases member with shown | ⟨-, rfl⟩
      · exact digit shown
      · exact zero
    · rcases List.mem_append.mp member with whole | fraction
      · exact digit (List.mem_of_mem_take whole)
      · rcases List.mem_cons.mp fraction with rfl | shown
        · exact point
        · exact digit (List.mem_of_mem_drop shown)

theorem plain_ne_nil (decimal : Decimal) : decimal.plain false ≠ [] := by
  simp only [plain]
  split
  · simp
  · split
    · intro empty
      have length := congrArg List.length empty
      simp only [List.length_append, List.length_replicate, Bool.false_eq_true, if_false,
        List.length_nil] at length
      omega
    · simp

theorem finite_value (number : Binary64) :
    Layout.value.finite number ≠ [] ∧
      ∀ char ∈ Layout.value.finite number, isNumeral char = true := by
  -- A value is written without an exponent wherever its point lies.
  have body : ∃ text : List Char, text ≠ [] ∧ (∀ char ∈ text, isNumeral char = true) ∧
      Layout.value.finite number = if number.negative then '-' :: text else text := by
    by_cases zero : number.isZero = true
    · refine ⟨['0'], by simp, ?_, by simp [Layout.finite, Layout.value, zero]⟩
      rw [List.forall_mem_singleton]
      decide
    · refine ⟨(shortest .up number).plain false, plain_ne_nil _, ?_, ?_⟩
      · intro char member
        exact isNumeral_of_mem_plain (fun _ shown => isDigit_of_mem_shortest shown) member
      · simp [Layout.finite, Layout.value, Layout.isPositional, zero]
  obtain ⟨text, filled, numeral, same⟩ := body
  rw [same]
  split
  · refine ⟨by simp, ?_⟩
    intro char member
    rcases List.mem_cons.mp member with rfl | later
    · decide
    · exact numeral char later
  · exact ⟨filled, numeral⟩

theorem render_value_of_finite {number : Binary64} (finite : number.isFinite = true) :
    (Layout.value.render number).toList ≠ [] ∧
      ∀ char ∈ (Layout.value.render number).toList, isNumeral char = true := by
  simpa [Layout.render, finite] using finite_value number

theorem isNumeral_or_isAlpha_of_mem_value {number : Binary64} {char : Char}
    (member : char ∈ (Layout.value.render number).toList) :
    isNumeral char = true ∨ char.isAlpha = true := by
  by_cases finite : number.isFinite = true
  · exact Or.inl ((render_value_of_finite finite).2 char member)
  · have spelled (word : String)
        (each : word.toList.all (fun char => isNumeral char || char.isAlpha) = true)
        (letter : char ∈ word.toList) : isNumeral char = true ∨ char.isAlpha = true := by
      simpa only [Bool.or_eq_true] using List.all_eq_true.mp each char letter
    rw [Layout.render, if_neg finite] at member
    by_cases infinite : number.isInfinite = true
    · by_cases negative : number.negative = true
      · rw [if_pos infinite, if_pos negative] at member
        exact spelled "-inf" (by decide) member
      · rw [if_pos infinite, if_neg negative] at member
        exact spelled "inf" (by decide) member
    · rw [if_neg infinite] at member
      exact spelled "NaN" (by decide) member

end Decimal

theorem isNumeral_of_mem_int {number : Int} {char : Char}
    (member : char ∈ (toString number).toList) :
    isNumeral char = true := by
  have digits : ∀ size : Nat, ∀ digit ∈ (toString size).toList, isNumeral digit = true := by
    intro size digit shown
    rw [Nat.toString_eq_repr, Nat.repr_eq_ofList_toDigits, String.toList_ofList] at shown
    exact isNumeral_of_isDigit (Nat.isDigit_of_mem_toDigits (by decide) (by decide) shown)
  cases number with
  | ofNat size => exact digits size char member
  | negSucc size =>
      have split : (toString (Int.negSucc size)).toList = '-' :: (toString (size + 1)).toList := by
        simp [Int.toString_eq_repr, Int.repr_eq_if, Nat.toString_eq_repr]
      rw [split] at member
      rcases List.mem_cons.mp member with rfl | later
      · decide
      · exact digits _ char later

end TelemetryRelay
