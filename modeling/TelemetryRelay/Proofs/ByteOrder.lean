import TelemetryRelay.Proofs.Utf8
import TelemetryRelay.Series

/-!
The order of bytes. UTF-8 keeps the order of characters and the bytes of a number keep the order of
numbers, so keys compare as the bytes of their names, their kinds and the bytes of their digests do.
-/

namespace TelemetryRelay

theorem compare_byte (left right : UInt8) :
    compare left right = compare left.toNat right.toNat := by
  rcases Nat.lt_trichotomy left.toNat right.toNat with below | same | above
  · rw [Nat.compare_eq_lt.mpr below]
    exact compareOfLessAndEq_eq_lt.mpr (UInt8.lt_iff_toNat_lt.mpr below)
  · rw [UInt8.toNat_inj.mp same, Std.compare_self, Std.compare_self]
  · rw [Nat.compare_eq_gt.mpr above]
    exact Std.OrientedCmp.gt_of_lt (compareOfLessAndEq_eq_lt.mpr (UInt8.lt_iff_toNat_lt.mpr above))

theorem compare_map_toNat (left right : List UInt8) :
    compare left right = compare (left.map UInt8.toNat) (right.map UInt8.toNat) := by
  induction left generalizing right with
  | nil => cases right <;> rfl
  | cons byte left ih =>
      cases right with
      | nil => rfl
      | cons other right =>
          rw [List.map_cons, List.map_cons, List.compare_cons_cons, List.compare_cons_cons, ih,
            compare_byte]

theorem compare_append {α : Type} [Ord α] {first second rest more : List α}
    (lengths : first.length = second.length) :
    compare (first ++ rest) (second ++ more) =
      (compare first second).then (compare rest more) := by
  induction first generalizing second with
  | nil =>
      rw [List.length_nil, eq_comm, List.length_eq_zero_iff] at lengths
      subst lengths
      rfl
  | cons head first ih =>
      cases second with
      | nil => cases lengths
      | cons other second =>
          have shorter : first.length = second.length := Nat.succ.inj lengths
          rw [List.cons_append, List.cons_append, List.compare_cons_cons, List.compare_cons_cons,
            ih shorter, Ordering.then_assoc]

theorem compare_quotient_then_last (left right : Nat) :
    compare left right =
      (compare (left / 256) (right / 256)).then
        (compare (UInt8.ofNat left) (UInt8.ofNat right)) := by
  rw [compare_byte, UInt8.toNat_ofNat', UInt8.toNat_ofNat']
  rcases Nat.lt_trichotomy (left / 256) (right / 256) with below | same | above
  · have whole : left < right := by omega
    rw [Nat.compare_eq_lt.mpr below, Nat.compare_eq_lt.mpr whole]
    rfl
  · rw [Nat.compare_eq_eq.mpr same]
    rcases Nat.lt_trichotomy left right with below | equal | above
    · have last : left % 2 ^ 8 < right % 2 ^ 8 := by omega
      rw [Nat.compare_eq_lt.mpr below, Nat.compare_eq_lt.mpr last]
      rfl
    · rw [Nat.compare_eq_eq.mpr equal, Nat.compare_eq_eq.mpr (congrArg (· % 2 ^ 8) equal)]
      rfl
    · have last : right % 2 ^ 8 < left % 2 ^ 8 := by omega
      rw [Nat.compare_eq_gt.mpr above, Nat.compare_eq_gt.mpr last]
      rfl
  · have whole : right < left := by omega
    rw [Nat.compare_eq_gt.mpr above, Nat.compare_eq_gt.mpr whole]
    rfl

theorem compare_bigEndian {count left right : Nat} (leftFits : left < 256 ^ count)
    (rightFits : right < 256 ^ count) :
    compare (bigEndian count left) (bigEndian count right) = compare left right := by
  induction count generalizing left right with
  | zero =>
      have same : left = right := by omega
      rw [Nat.compare_eq_eq.mpr same]
      rfl
  | succ count ih =>
      rw [Nat.pow_succ] at leftFits rightFits
      have lengths : (bigEndian count (left / 256)).length =
          (bigEndian count (right / 256)).length := by
        rw [length_bigEndian, length_bigEndian]
      have quotients : compare (bigEndian count (left / 256)) (bigEndian count (right / 256)) =
          compare (left / 256) (right / 256) := ih (by omega) (by omega)
      rw [bigEndian, bigEndian, compare_append lengths, quotients, List.compare_cons_cons,
        List.compare_nil_nil, Ordering.then_eq, ← compare_quotient_then_last]

theorem Digest.compare_bytes (left right : Digest) :
    compare left.bytes right.bytes = compare left.number right.number := by
  have bound : 2 ^ 256 ≤ 256 ^ 32 := by decide
  exact compare_bigEndian (Nat.lt_of_lt_of_le left.number.isLt bound)
    (Nat.lt_of_lt_of_le right.number.isLt bound)

namespace Text.Utf8

theorem encodeChar_bytes (char : Char) :
    let code := char.toNat
    let bytes := (String.utf8EncodeChar char).map UInt8.toNat
    (code < 0x80 ∧ bytes = [code]) ∨
      (0x80 ≤ code ∧ code < 0x800 ∧ bytes = [0xC0 + code / 64, 0x80 + code % 64]) ∨
      (0x800 ≤ code ∧ code < 0x10000 ∧
        bytes = [0xE0 + code / 4096, 0x80 + code / 64 % 64, 0x80 + code % 64]) ∨
      (0x10000 ≤ code ∧ code < 0x110000 ∧
        bytes = [0xF0 + code / 262144, 0x80 + code / 4096 % 64, 0x80 + code / 64 % 64,
          0x80 + code % 64]) := by
  intro code bytes
  have bound : code < 0x110000 := by
    have valid : char.toNat.isValidChar := char.valid
    rcases valid with low | high <;> omega
  have value : char.val.toNat = code := rfl
  simp only [bytes, String.utf8EncodeChar, value]
  split
  · refine Or.inl ?_
    simp
    omega
  · split
    · refine Or.inr (Or.inl ?_)
      simp
      omega
    · split
      · refine Or.inr (Or.inr (Or.inl ?_))
        simp
        omega
      · refine Or.inr (Or.inr (Or.inr ?_))
        simp
        omega

theorem compare_encodeChar_of_lt {char other : Char} (below : char < other)
    (rest more : List UInt8) :
    compare (String.utf8EncodeChar char ++ rest) (String.utf8EncodeChar other ++ more) = .lt := by
  have codes : char.toNat < other.toNat := below
  rw [compare_map_toNat, List.map_append, List.map_append]
  -- Longer characters begin with greater bytes; those of one length differ digit by digit.
  rcases encodeChar_bytes char with ⟨low, bytes⟩ | ⟨low, high, bytes⟩ | ⟨low, high, bytes⟩ |
      ⟨low, high, bytes⟩ <;>
    rcases encodeChar_bytes other with ⟨otherLow, others⟩ | ⟨otherLow, otherHigh, others⟩ |
      ⟨otherLow, otherHigh, others⟩ | ⟨otherLow, otherHigh, others⟩ <;>
    rw [bytes, others] <;>
    simp only [List.cons_append, List.nil_append, List.compare_cons_cons, Ordering.then_eq_lt,
      Nat.compare_eq_lt, Nat.compare_eq_eq] <;>
    omega

theorem compare_encodeChar (char other : Char) (rest more : List UInt8) :
    compare (String.utf8EncodeChar char ++ rest) (String.utf8EncodeChar other ++ more) =
      (compare char other).then (compare rest more) := by
  cases order : compare char other with
  | lt => exact compare_encodeChar_of_lt (compareOfLessAndEq_eq_lt.mp order) rest more
  | eq =>
      rw [Std.compare_eq_iff_eq.mp order, compare_append rfl, Std.compare_self]
  | gt =>
      have reversed : compare other char = .lt := Std.OrientedCmp.lt_of_gt order
      have above : other < char := compareOfLessAndEq_eq_lt.mp reversed
      exact Std.OrientedCmp.gt_of_lt (compare_encodeChar_of_lt above more rest)

theorem compare_flatMap_encodeChar (left right : List Char) :
    compare (left.flatMap String.utf8EncodeChar) (right.flatMap String.utf8EncodeChar) =
      compare left right := by
  have filled (char : Char) (rest : List Char) :
      ∃ byte bytes, (char :: rest).flatMap String.utf8EncodeChar = byte :: bytes := by
    obtain ⟨byte, bytes, split⟩ :=
      List.exists_cons_of_ne_nil (String.utf8EncodeChar_ne_nil (c := char))
    refine ⟨byte, bytes ++ rest.flatMap String.utf8EncodeChar, ?_⟩
    rw [List.flatMap_cons, split, List.cons_append]
  induction left generalizing right with
  | nil =>
      cases right with
      | nil => rfl
      | cons other right =>
          obtain ⟨byte, bytes, split⟩ := filled other right
          rw [split]
          rfl
  | cons char left ih =>
      cases right with
      | nil =>
          obtain ⟨byte, bytes, split⟩ := filled char left
          rw [split]
          rfl
      | cons other right =>
          rw [List.flatMap_cons, List.flatMap_cons, compare_encodeChar, ih, List.compare_cons_cons]

theorem compare_chars_eq_lt_iff (left right : List Char) :
    compare left right = .lt ↔ left < right := by
  induction left generalizing right with
  | nil => cases right <;> simp
  | cons char left ih =>
      cases right with
      | nil => simp
      | cons other right =>
          rw [List.compare_cons_cons, Ordering.then_eq_lt, ih, List.cons_lt_cons_iff,
            Std.compare_eq_iff_eq]
          exact or_congr_left compareOfLessAndEq_eq_lt

theorem compare_encode (left right : String) :
    compare (encode left) (encode right) = compare left right := by
  rw [encode, encode, compare_flatMap_encodeChar]
  have less (first second : String) (order : compare first second = .lt) :
      compare first.toList second.toList = .lt := by
    have below : first < second := compareOfLessAndEq_eq_lt.mp order
    exact (compare_chars_eq_lt_iff _ _).mpr below
  cases order : compare left right with
  | lt => exact less left right order
  | eq => rw [Std.compare_eq_iff_eq.mp order, Std.compare_self]
  | gt => exact Std.OrientedCmp.gt_of_lt (less right left (Std.OrientedCmp.lt_of_gt order))

end Text.Utf8

namespace SeriesId

/-- Keys by the bytes of their names, then by kind, then by the bytes of their digests. -/
def byteOrder : SeriesId → SeriesId → Ordering :=
  compareLex (compareOn fun key => Text.Utf8.encode key.name)
    (compareLex (compareOn fun key => key.kind.rank) (compareOn fun key => key.digest.bytes))

theorem byteOrder_eq : byteOrder = compare := by
  funext left right
  change byteOrder left right = order left right
  simp only [byteOrder, order, compareLex, compareOn, Text.Utf8.compare_encode,
    Digest.compare_bytes]

end SeriesId

end TelemetryRelay
