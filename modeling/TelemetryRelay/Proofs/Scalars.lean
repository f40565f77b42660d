import TelemetryRelay.Proofs.Grammar

/-!
Scalars. A reader accepts a value that is written as the kind wants it, and nothing else: a string
between quotes, one of two words, or a natural number in digits, without sign, fraction or exponent.
-/

namespace TelemetryRelay.Json

theorem WholePart.skipBlank_eq {text : List Char} (wholes : WholePart text) :
    skipBlank text = text := by
  obtain ⟨char, rest, rfl, digit⟩ := wholes.head
  exact skipBlank_cons (isBlank_of_numeral (.inr digit)) rest

theorem le_ofDigitChars (run : List Char) (start : Nat) :
    start ≤ Nat.ofDigitChars 10 run start := by
  induction run generalizing start with
  | nil => exact Nat.le_refl start
  | cons digit run ih =>
      rw [Nat.ofDigitChars_cons]
      have more := ih (10 * start + (digit.toNat - '0'.toNat))
      omega

theorem collect_eq_iff {run : List Char} {start value : Nat} (small : start < 2 ^ 64) :
    collect start run = (value, []) ↔
      Nat.ofDigitChars 10 run start = value ∧ value < 2 ^ 64 := by
  induction run generalizing start with
  | nil =>
      simp only [collect, Prod.mk.injEq, and_true, Nat.ofDigitChars_nil]
      constructor
      · rintro rfl
        exact ⟨rfl, small⟩
      · exact And.left
  | cons digit run ih =>
      have order : start * 10 + (digit.toNat - 0x30) =
          10 * start + (digit.toNat - '0'.toNat) := by
        rw [Nat.mul_comm]
        rfl
      rw [collect, order, Nat.ofDigitChars_cons]
      split
      · rename_i below
        exact ih below
      · rename_i beyond
        have more := le_ofDigitChars run (10 * start + (digit.toNat - '0'.toNat))
        constructor
        · intro same
          cases (Prod.mk.inj same).2
        · rintro ⟨rfl, below⟩
          exact (beyond (Nat.lt_of_le_of_lt more below)).elim

theorem assemble_eq_integer_iff {whole : List Char} {fraction : Option (List Char)}
    {power : Option Int} {value : Int} :
    assemble whole fraction power = .ok (.integer value) ↔
      fraction = none ∧ power = none ∧ (Nat.ofDigitChars 10 whole 0 : Int) = value ∧
        Nat.ofDigitChars 10 whole 0 < 2 ^ 64 := by
  unfold assemble
  split
  rename_i significand dropped collected
  split
  · obtain ⟨rfl, small⟩ := (collect_eq_iff (by decide)).mp collected
    simp [small]
  · rename_i other
    constructor
    · intro assembled
      obtain ⟨float, -, same⟩ := bind_eq_ok.mp assembled
      cases same
    · rintro ⟨rfl, rfl, -, small⟩
      have full := (collect_eq_iff (by decide)).mpr ⟨rfl, small⟩
      rw [collected] at full
      exact (other rfl rfl (Prod.mk.inj full).2).elim

theorem magnitude_eq_integer_iff {text : List Char} {value : Int} :
    magnitude text = .ok (.integer value, []) ↔
      WholePart text ∧ (Nat.ofDigitChars 10 text 0 : Int) = value ∧
        Nat.ofDigitChars 10 text 0 < 2 ^ 64 := by
  simp only [magnitude, bind_eq_ok]
  constructor
  · rintro ⟨⟨whole, afterWhole⟩, readWhole, ⟨fraction, afterFraction⟩, readFraction,
      ⟨power, rest⟩, readPower, number, assembled, same⟩
    cases same
    obtain ⟨rfl, rfl, worth, small⟩ := assemble_eq_integer_iff.mp assembled
    obtain ⟨_, _, wholes, fractions, exponents, rfl, -⟩ :=
      magnitude_parts readWhole readFraction readPower
    cases fractions
    cases exponents
    simp only [List.append_nil] at wholes ⊢
    exact ⟨wholes, worth, small⟩
  · rintro ⟨wholes, worth, small⟩
    have read : wholeDigits text = .ok (text, []) := by
      refine wholeDigits_eq_ok_iff.mpr ⟨wholes, (List.append_nil text).symm, ?_⟩
      simp [Stops]
    have assembled := assemble_eq_integer_iff.mpr ⟨rfl, rfl, worth, small⟩
    exact ⟨_, read, _, rfl, _, rfl, _, assembled, rfl⟩

theorem number_eq_natural_iff {text : List Char} {value : Nat} :
    number text = .ok (.integer value, []) ↔
      WholePart text ∧ Nat.ofDigitChars 10 text 0 = value ∧ value < 2 ^ 64 := by
  unfold number
  split
  · rename_i rest
    constructor
    · intro read
      obtain ⟨size, read, negated⟩ := map_eq_ok.mp read
      cases size with
      | float size => cases negated
      | integer size =>
          obtain ⟨-, rfl, -⟩ := magnitude_eq_integer_iff.mp read
          simp only [Number.negate] at negated
          split at negated
          · cases negated
          · -- Minus a natural number is none, unless it is zero, which becomes a float.
            simp only [Number.integer.injEq] at negated
            omega
    · rintro ⟨wholes, -⟩
      obtain ⟨char, rest, same, digit⟩ := wholes.head
      cases same
      cases digit
  · rw [magnitude_eq_integer_iff, Int.natCast_inj]
    constructor
    · rintro ⟨wholes, rfl, small⟩
      exact ⟨wholes, rfl, small⟩
    · rintro ⟨wholes, rfl, small⟩
      exact ⟨wholes, rfl, small⟩

theorem within_eq_ok_iff {expected : String} {least greatest value : Int} {number : Number} :
    within expected least greatest number = .ok value ↔
      number = .integer value ∧ least ≤ value ∧ value ≤ greatest := by
  cases number with
  | float size => simp [within]
  | integer size =>
      simp only [within, Number.integer.injEq]
      split
      · rename_i bounds
        constructor
        · rintro ⟨⟩
          exact ⟨rfl, bounds⟩
        · rintro ⟨rfl, -⟩
          rfl
      · rename_i beyond
        constructor
        · intro same
          cases same
        · rintro ⟨rfl, bounds⟩
          exact (beyond bounds).elim

section

variable {text : List Char} (full : skipBlank text = text)

include full

theorem string_eq_ok_iff {value : String} :
    string text = .ok (value, []) ↔
      ∃ body, Writes body value.toList ∧ text = '"' :: (body ++ ['"']) := by
  unfold string
  rw [full]
  constructor
  · intro read
    split at read
    · obtain ⟨chars, quoted, rfl⟩ := map_eq_ok.mp read
      obtain ⟨body, writes, rfl⟩ := characters_eq_ok_iff.mp quoted
      exact ⟨body, by rwa [String.toList_ofList], rfl⟩
    · cases read
  · rintro ⟨body, writes, rfl⟩
    have quoted : characters (body ++ ['"']) = .ok (value.toList, []) :=
      characters_eq_ok_iff.mpr ⟨body, writes, rfl⟩
    exact map_eq_ok.mpr ⟨value.toList, quoted, String.ofList_toList⟩

theorem boolean_eq_ok_iff {value : Bool} :
    boolean text = .ok (value, []) ↔ text = (if value then "true" else "false").toList := by
  unfold boolean
  rw [full]
  constructor
  · intro read
    split at read
    · obtain ⟨rest, passed, same⟩ := bind_eq_ok.mp read
      cases same
      exact congrArg ('t' :: ·) (word_eq_ok passed)
    · obtain ⟨rest, passed, same⟩ := bind_eq_ok.mp read
      cases same
      exact congrArg ('f' :: ·) (word_eq_ok passed)
    · cases read
  · rintro rfl
    cases value <;> rfl

theorem numeric_within_eq_ok_iff {expected : String} {greatest value : Int}
    (bounded : greatest < 2 ^ 64) :
    numeric expected (within expected 0 greatest) text = .ok (value, []) ↔
      WholePart text ∧ (Nat.ofDigitChars 10 text 0 : Int) = value ∧ value ≤ greatest := by
  unfold numeric
  rw [full]
  constructor
  · intro read
    split at read
    · cases read
    · split at read
      · obtain ⟨⟨size, rest⟩, sized, read⟩ := bind_eq_ok.mp read
        obtain ⟨accepted, accepts, same⟩ := bind_eq_ok.mp read
        cases same
        obtain ⟨rfl, natural, most⟩ := within_eq_ok_iff.mp accepts
        obtain ⟨count, rfl⟩ := Int.eq_ofNat_of_zero_le natural
        obtain ⟨wholes, rfl, -⟩ := number_eq_natural_iff.mp sized
        exact ⟨wholes, rfl, most⟩
      · cases read
  · rintro ⟨wholes, rfl, most⟩
    have sized := number_eq_natural_iff.mpr ⟨wholes, rfl, by omega⟩
    obtain ⟨char, rest, rfl, digit⟩ := wholes.head
    simp only [digit, or_true, if_true]
    refine bind_eq_ok.mpr ⟨_, sized, bind_eq_ok.mpr ⟨_, ?_, rfl⟩⟩
    exact within_eq_ok_iff.mpr ⟨rfl, Int.natCast_nonneg _, most⟩

theorem natural_eq_ok_iff {Value : Type} {convert : Nat → Value} {number : Value → Nat}
    (converts : ∀ value, convert (number value) = value) {expected : String} {greatest : Int}
    (bounded : greatest < 2 ^ 64) (small : ∀ value, (number value : Int) ≤ greatest)
    (exact : ∀ count : Nat, count ≤ greatest → number (convert count) = count) {value : Value} :
    (do
      let (count, rest) ← numeric expected (within expected 0 greatest) text
      return (convert count.toNat, rest)) = Except.ok (value, []) ↔
      WholePart text ∧ Nat.ofDigitChars 10 text 0 = number value := by
  constructor
  · intro read
    obtain ⟨⟨count, rest⟩, read, same⟩ := bind_eq_ok.mp read
    cases same
    obtain ⟨wholes, rfl, most⟩ := (numeric_within_eq_ok_iff full bounded).mp read
    exact ⟨wholes, (exact _ most).symm⟩
  · rintro ⟨wholes, worth⟩
    have read : numeric expected (within expected 0 greatest) text =
        .ok ((number value : Int), []) :=
      (numeric_within_eq_ok_iff full bounded).mpr ⟨wholes, congrArg Nat.cast worth, small value⟩
    refine bind_eq_ok.mpr ⟨_, read, ?_⟩
    exact congrArg (fun value => Except.ok (value, [])) (converts value)

theorem uint64_eq_ok_iff {value : UInt64} :
    uint64 text = .ok (value, []) ↔
      WholePart text ∧ Nat.ofDigitChars 10 text 0 = value.toNat := by
  refine natural_eq_ok_iff full (fun value => UInt64.ofNat_toNat) (by decide)
    (fun value => ?_) fun count below => UInt64.toNat_ofNat_of_lt' ?_
  · have below := value.toNat_lt
    omega
  · change count < 2 ^ 64
    omega

theorem uint16_eq_ok_iff {value : UInt16} :
    uint16 text = .ok (value, []) ↔
      WholePart text ∧ Nat.ofDigitChars 10 text 0 = value.toNat := by
  refine natural_eq_ok_iff full (fun value => UInt16.ofNat_toNat) (by decide)
    (fun value => ?_) fun count below => UInt16.toNat_ofNat_of_lt' ?_
  · have below := value.toNat_lt
    omega
  · change count < 2 ^ 16
    omega

end

end TelemetryRelay.Json
