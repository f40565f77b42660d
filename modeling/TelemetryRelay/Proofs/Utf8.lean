import Mathlib.Data.List.Basic
import TelemetryRelay.Text.Utf8

/-!
The machine that reads UTF-8 accepts what the encoding writes and nothing else. A line feed always
stands between two characters, so a text may be cut there before or after it is read.
-/

namespace TelemetryRelay.Text.Utf8

def Valid (bytes : List UInt8) : Prop :=
  ∃ text : String, encode text = bytes

/-- The bytes, read on from the state, end between two characters and hold these characters. -/
inductive Spells : State → List UInt8 → List Char → Prop
  | done : Spells .start [] []
  | more {state next byte rest chars} : step state byte.toNat = .more next →
      Spells next rest chars → Spells state (byte :: rest) chars
  | char {state byte rest char chars} : step state byte.toNat = .char char →
      Spells .start rest chars → Spells state (byte :: rest) (char :: chars)

section

variable {state : State} {byte : UInt8} {rest : List UInt8}

theorem charsFrom_more {next : State} (stepped : step state byte.toNat = .more next) :
    charsFrom state (byte :: rest) = charsFrom next rest := by
  cases state <;> simp only [charsFrom, stepped]

theorem charsFrom_char {char : Char} (stepped : step state byte.toNat = .char char) :
    charsFrom state (byte :: rest) = char :: charsFrom .start rest := by
  cases state <;> simp only [charsFrom, stepped]

end

theorem spells_iff (index : Nat) (state : State) (bytes : List UInt8) (chars : List Char) :
    Spells state bytes chars ↔
      faultFrom index state bytes = none ∧ charsFrom state bytes = chars := by
  constructor
  · intro spelled
    induction spelled generalizing index with
    | done => exact ⟨rfl, rfl⟩
    | more stepped _ ih =>
        rw [charsFrom_more stepped]
        simpa only [faultFrom, stepped] using ih (index + 1)
    | char stepped _ ih =>
        rw [charsFrom_char stepped]
        simpa only [faultFrom, stepped, List.cons.injEq, true_and] using ih (index + 1)
  · rintro ⟨faultless, rfl⟩
    induction bytes generalizing index state with
    | nil =>
        cases state with
        | start => exact .done
        | inside => simp [faultFrom] at faultless
    | cons byte rest ih =>
        cases stepped : step state byte.toNat with
        | more next =>
            rw [charsFrom_more stepped]
            simp only [faultFrom, stepped] at faultless
            exact .more stepped (ih _ _ faultless)
        | char char =>
            rw [charsFrom_char stepped]
            simp only [faultFrom, stepped] at faultless
            exact .char stepped (ih _ _ faultless)
        | broken length => cases state <;> simp [faultFrom, stepped] at faultless

theorem decode_eq_ok_iff_spells (bytes : List UInt8) (chars : List Char) :
    decode bytes = .ok chars ↔ Spells .start bytes chars := by
  rw [spells_iff 0, decode, fault?, decodeLossy]
  cases faultFrom 0 .start bytes <;> simp

def Continues : Nat → Nat → List UInt8 → Prop
  | _, _, [] => True
  | low, high, byte :: rest =>
    low ≤ byte.toNat ∧ byte.toNat ≤ high ∧ Continues 0x80 0xBF rest

def collected (bits : Nat) (tail : List UInt8) : Nat :=
  tail.foldl (fun bits byte => bits * 64 + byte.toNat % 64) bits

/-- What a state promises after `seen`: with the bytes still owed these encode a character. -/
def State.Promises (seen : List UInt8) : State → Prop
  | .start => seen = []
  | .inside _ owed low high bits =>
    1 ≤ owed ∧ ∀ tail : List UInt8, tail.length = owed → Continues low high tail →
      String.utf8EncodeChar (Char.ofNat (collected bits tail)) = seen ++ tail

theorem promises_start : State.start.Promises [] := rfl

theorem toNat_ofNat (code : Nat) (valid : code.isValidChar) :
    (Char.ofNat code).val.toNat = code := by
  rw [Char.ofNat, dif_pos valid]
  rfl

theorem encode_two {code : Nat} (low : 0x80 ≤ code) (high : code < 0x800) {first second : UInt8}
    (head : first.toNat = 0xC0 + code / 64) (tail : second.toNat = 0x80 + code % 64) :
    String.utf8EncodeChar (Char.ofNat code) = [first, second] := by
  have value := toNat_ofNat code (Or.inl (by omega))
  simp only [String.utf8EncodeChar, value, show ¬code ≤ 127 by omega, show code ≤ 2047 by omega,
    if_true, if_false, List.cons.injEq, ← UInt8.toNat_inj, UInt8.toNat_ofNat', head, tail,
    and_true]
  omega

theorem encode_three {code : Nat} (low : 0x800 ≤ code) (high : code < 0x10000)
    (valid : code.isValidChar) {first second third : UInt8}
    (head : first.toNat = 0xE0 + code / 4096) (middle : second.toNat = 0x80 + code / 64 % 64)
    (tail : third.toNat = 0x80 + code % 64) :
    String.utf8EncodeChar (Char.ofNat code) = [first, second, third] := by
  have value := toNat_ofNat code valid
  simp only [String.utf8EncodeChar, value, show ¬code ≤ 127 by omega, show ¬code ≤ 2047 by omega,
    show code ≤ 65535 by omega, if_true, if_false, List.cons.injEq, ← UInt8.toNat_inj,
    UInt8.toNat_ofNat', head, middle, tail, and_true]
  omega

theorem encode_four {code : Nat} (low : 0x10000 ≤ code) (high : code < 0x110000)
    {first second third fourth : UInt8}
    (head : first.toNat = 0xF0 + code / 262144) (early : second.toNat = 0x80 + code / 4096 % 64)
    (late : third.toNat = 0x80 + code / 64 % 64) (tail : fourth.toNat = 0x80 + code % 64) :
    String.utf8EncodeChar (Char.ofNat code) = [first, second, third, fourth] := by
  have value := toNat_ofNat code (Or.inr (by omega))
  simp only [String.utf8EncodeChar, value, show ¬code ≤ 127 by omega, show ¬code ≤ 2047 by omega,
    show ¬code ≤ 65535 by omega, if_false, List.cons.injEq, ← UInt8.toNat_inj,
    UInt8.toNat_ofNat', head, early, late, tail, and_true]
  omega

theorem promises_two {first : UInt8} {low high bits : Nat}
    (wide : 0x80 ≤ low ∧ high ≤ 0xBF) (head : first.toNat = 0xC0 + bits) (least : 2 ≤ bits)
    (most : bits < 32) : State.Promises [first] (.inside 1 1 low high bits) := by
  refine ⟨Nat.le_refl 1, ?_⟩
  intro tail size continues
  obtain ⟨second, rfl⟩ := List.length_eq_one_iff.mp size
  simp only [Continues] at continues
  apply encode_two <;> simp only [collected, List.foldl_cons, List.foldl_nil] <;> omega

theorem promises_three {first : UInt8} {low high bits : Nat}
    (wide : 0x80 ≤ low ∧ high ≤ 0xBF) (head : first.toNat = 0xE0 + bits) (most : bits < 16)
    (notShort : bits = 0 → 0xA0 ≤ low) (notSurrogate : bits = 13 → high ≤ 0x9F) :
    State.Promises [first] (.inside 1 2 low high bits) := by
  refine ⟨by omega, ?_⟩
  intro tail size continues
  obtain ⟨second, third, rfl⟩ := List.length_eq_two.mp size
  simp only [Continues] at continues
  apply encode_three <;>
    simp only [collected, List.foldl_cons, List.foldl_nil, Nat.isValidChar] <;> omega

theorem promises_four {first : UInt8} {low high bits : Nat}
    (wide : 0x80 ≤ low ∧ high ≤ 0xBF) (head : first.toNat = 0xF0 + bits) (most : bits ≤ 4)
    (notShort : bits = 0 → 0x90 ≤ low) (notBeyond : bits = 4 → high ≤ 0x8F) :
    State.Promises [first] (.inside 1 3 low high bits) := by
  refine ⟨by omega, ?_⟩
  intro tail size continues
  obtain ⟨second, third, fourth, rfl⟩ := List.length_eq_three.mp size
  simp only [Continues] at continues
  apply encode_four <;> simp only [collected, List.foldl_cons, List.foldl_nil] <;> omega

theorem promises_first {byte : UInt8} {next : State}
    (stepped : step .start byte.toNat = .more next) :
    next.Promises [byte] := by
  simp only [step] at stepped
  -- What the first byte bounds the second one by is what keeps out encodings that are too long,
  -- surrogates, and numbers beyond the last character.
  split at stepped
  · cases stepped
  · repeat' split at stepped
    all_goals cases stepped
    · exact promises_two (by omega) (by omega) (by omega) (by omega)
    all_goals first
      | exact promises_three (by omega) (by omega) (by omega) (by omega) (by omega)
      | exact promises_four (by omega) (by omega) (by omega) (by omega) (by omega)

theorem promises_next {seen : List UInt8} {state next : State} {byte : UInt8}
    (promised : state.Promises seen) (stepped : step state byte.toNat = .more next) :
    next.Promises (seen ++ [byte]) := by
  cases state with
  | start =>
      subst promised
      exact promises_first stepped
  | inside count owed low high bits =>
      obtain ⟨_, promise⟩ := promised
      simp only [step] at stepped
      split at stepped
      · rename_i bounds
        split at stepped
        · cases stepped
        · cases stepped
          refine ⟨by omega, ?_⟩
          intro tail size continues
          rw [List.append_assoc]
          exact promise (byte :: tail) (by rw [List.length_cons]; omega)
            ⟨bounds.1, bounds.2, continues⟩
      · cases stepped

theorem encode_of_char {seen : List UInt8} {state : State} {byte : UInt8} {char : Char}
    (promised : state.Promises seen) (stepped : step state byte.toNat = .char char) :
    String.utf8EncodeChar char = seen ++ [byte] := by
  cases state with
  | start =>
      subst promised
      simp only [step] at stepped
      split at stepped
      · rename_i ascii
        cases stepped
        have value := toNat_ofNat byte.toNat (Or.inl (by omega))
        simp only [String.utf8EncodeChar, value, show byte.toNat ≤ 127 by omega, if_true,
          UInt8.ofNat_toNat, List.nil_append]
      · repeat' split at stepped
        all_goals cases stepped
  | inside count owed low high bits =>
      obtain ⟨owing, promise⟩ := promised
      simp only [step] at stepped
      split at stepped
      · rename_i bounds
        split at stepped
        · cases stepped
          exact promise [byte] (by simp only [List.length_singleton]; omega)
            ⟨bounds.1, bounds.2, trivial⟩
        · cases stepped
      · cases stepped

theorem Spells.encoded {seen : List UInt8} {state : State} {bytes : List UInt8}
    {chars : List Char} (spelled : Spells state bytes chars) (promised : state.Promises seen) :
    seen ++ bytes = chars.flatMap String.utf8EncodeChar := by
  induction spelled generalizing seen with
  | done =>
      subst promised
      rfl
  | more stepped _ ih =>
      have rest := ih (promises_next promised stepped)
      rwa [List.append_assoc] at rest
  | char stepped _ ih =>
      have rest := ih promises_start
      rw [List.flatMap_cons, encode_of_char promised stepped, ← rest, List.append_assoc]
      rfl

theorem Spells.continued {rest : List UInt8} {chars : List Char}
    (spelled : Spells .start rest chars) (tail : List UInt8) (count low high bits : Nat)
    (owing : tail ≠ []) (continues : Continues low high tail) :
    Spells (.inside count tail.length low high bits) (tail ++ rest)
      (Char.ofNat (collected bits tail) :: chars) := by
  induction tail generalizing count low high bits with
  | nil => exact absurd rfl owing
  | cons byte tail ih =>
      obtain ⟨above, below, others⟩ := continues
      cases tail with
      | nil =>
          refine .char ?_ spelled
          simp only [step, above, below, and_self, if_true, List.length_singleton, Nat.le_refl]
          rfl
      | cons second tail =>
          have next := ih (count + 1) 0x80 0xBF (bits * 64 + byte.toNat % 64)
            (List.cons_ne_nil _ _) others
          refine .more ?_ next
          simp only [step, above, below, and_self, if_true, List.length_cons,
            show ¬tail.length + 1 + 1 ≤ 1 by omega, if_false, Nat.add_sub_cancel]

theorem step_two {code : Nat} (low : 0x80 ≤ code) (high : code < 0x800) :
    step .start (0xC0 + code / 64) = .more (.inside 1 1 0x80 0xBF (code / 64)) := by
  have bits : (0xC0 + code / 64) % 32 = code / 64 := by omega
  rw [step, if_neg (by omega), if_pos (by omega), bits]

theorem step_three {code : Nat} (low : 0x800 ≤ code) (high : code < 0x10000)
    (valid : code.isValidChar) :
    ∃ least most, step .start (0xE0 + code / 4096) = .more (.inside 1 2 least most (code / 4096)) ∧
      least ≤ 0x80 + code / 64 % 64 ∧ 0x80 + code / 64 % 64 ≤ most := by
  simp only [Nat.isValidChar] at valid
  have bits : (0xE0 + code / 4096) % 16 = code / 4096 := by omega
  by_cases zero : code / 4096 = 0
  · exact ⟨0xA0, 0xBF, by simp [zero, step], by omega, by omega⟩
  · by_cases surrogate : code / 4096 = 13
    · exact ⟨0x80, 0x9F, by simp [surrogate, step], by omega, by omega⟩
    · refine ⟨0x80, 0xBF, ?_, by omega, by omega⟩
      rw [step, if_neg (by omega), if_neg (by omega), if_neg (by omega), if_neg (by omega),
        if_pos (by omega), bits]

theorem step_four {code : Nat} (low : 0x10000 ≤ code) (high : code < 0x110000) :
    ∃ least most,
      step .start (0xF0 + code / 262144) = .more (.inside 1 3 least most (code / 262144)) ∧
      least ≤ 0x80 + code / 4096 % 64 ∧ 0x80 + code / 4096 % 64 ≤ most := by
  have bits : (0xF0 + code / 262144) % 8 = code / 262144 := by omega
  by_cases zero : code / 262144 = 0
  · exact ⟨0x90, 0xBF, by simp [zero, step], by omega, by omega⟩
  · by_cases last : code / 262144 = 4
    · exact ⟨0x80, 0x8F, by simp [last, step], by omega, by omega⟩
    · refine ⟨0x80, 0xBF, ?_, by omega, by omega⟩
      rw [step, if_neg (by omega), if_neg (by omega), if_neg (by omega), if_neg (by omega),
        if_neg (by omega), if_neg (by omega), if_pos (by omega), bits]

theorem exists_byte (value : Nat) (small : value < 256) : ∃ byte : UInt8, byte.toNat = value :=
  ⟨UInt8.ofNat value, UInt8.toNat_ofNat_of_lt' small⟩

theorem Spells.begun {bytes tail : List UInt8} {chars : List Char} {first : UInt8}
    {low high bits : Nat} (spelled : Spells .start bytes chars) (owing : tail ≠ [])
    (stepped : step .start first.toNat = .more (.inside 1 tail.length low high bits))
    (continues : Continues low high tail) :
    Spells .start (String.utf8EncodeChar (Char.ofNat (collected bits tail)) ++ bytes)
      (Char.ofNat (collected bits tail) :: chars) := by
  have encoded := (promises_first stepped).2 tail rfl continues
  rw [encoded]
  exact .more stepped (spelled.continued tail 1 low high bits owing continues)

theorem Spells.encodeChar {bytes : List UInt8} {chars : List Char} (char : Char)
    (spelled : Spells .start bytes chars) :
    Spells .start (String.utf8EncodeChar char ++ bytes) (char :: chars) := by
  have named : Char.ofNat char.val.toNat = char := Char.ofNat_toNat char
  have valid : char.val.toNat.isValidChar := char.valid
  generalize char.val.toNat = code at named valid
  subst named
  have range := valid
  simp only [Nat.isValidChar] at range
  -- One case for each length: the bytes are named, and the bits they collect are the code again.
  rcases (by omega : code < 0x80 ∨ 0x80 ≤ code ∧ code < 0x800 ∨
    0x800 ≤ code ∧ code < 0x10000 ∨ 0x10000 ≤ code) with
    one | ⟨low, high⟩ | ⟨low, high⟩ | low
  · obtain ⟨byte, head⟩ := exists_byte code (by omega)
    have stepped : step .start byte.toNat = .char (Char.ofNat code) := by
      rw [head, step, if_pos one]
    rw [encode_of_char promises_start stepped]
    exact .char stepped spelled
  · obtain ⟨first, head⟩ := exists_byte (0xC0 + code / 64) (by omega)
    obtain ⟨second, tail⟩ := exists_byte (0x80 + code % 64) (by omega)
    have stepped := step_two low high
    have whole : collected (code / 64) [second] = code := by
      simp only [collected, List.foldl_cons, List.foldl_nil]
      omega
    rw [← head] at stepped
    rw [← whole]
    exact spelled.begun (by simp) stepped ⟨by omega, by omega, trivial⟩
  · obtain ⟨first, head⟩ := exists_byte (0xE0 + code / 4096) (by omega)
    obtain ⟨second, middle⟩ := exists_byte (0x80 + code / 64 % 64) (by omega)
    obtain ⟨third, tail⟩ := exists_byte (0x80 + code % 64) (by omega)
    obtain ⟨least, most, stepped, above, below⟩ := step_three low high valid
    have whole : collected (code / 4096) [second, third] = code := by
      simp only [collected, List.foldl_cons, List.foldl_nil]
      omega
    rw [← head] at stepped
    rw [← whole]
    exact spelled.begun (by simp) stepped ⟨by omega, by omega, by omega, by omega, trivial⟩
  · obtain ⟨first, head⟩ := exists_byte (0xF0 + code / 262144) (by omega)
    obtain ⟨second, early⟩ := exists_byte (0x80 + code / 4096 % 64) (by omega)
    obtain ⟨third, late⟩ := exists_byte (0x80 + code / 64 % 64) (by omega)
    obtain ⟨fourth, tail⟩ := exists_byte (0x80 + code % 64) (by omega)
    obtain ⟨least, most, stepped, above, below⟩ := step_four low (by omega)
    have whole : collected (code / 262144) [second, third, fourth] = code := by
      simp only [collected, List.foldl_cons, List.foldl_nil]
      omega
    rw [← head] at stepped
    rw [← whole]
    exact spelled.begun (by simp) stepped
      ⟨by omega, by omega, by omega, by omega, by omega, by omega, trivial⟩

theorem spells_encode (chars : List Char) :
    Spells .start (chars.flatMap String.utf8EncodeChar) chars := by
  induction chars with
  | nil => exact .done
  | cons char rest ih => exact ih.encodeChar char

theorem spells_start_iff (bytes : List UInt8) (chars : List Char) :
    Spells .start bytes chars ↔ bytes = chars.flatMap String.utf8EncodeChar := by
  constructor
  · intro spelled
    exact spelled.encoded promises_start
  · rintro rfl
    exact spells_encode chars

theorem decode_eq_ok_iff (bytes : List UInt8) (chars : List Char) :
    decode bytes = .ok chars ↔ bytes = encode (String.ofList chars) := by
  rw [decode_eq_ok_iff_spells, spells_start_iff, encode, String.toList_ofList]

theorem decode_encode (text : String) : decode (encode text) = .ok text.toList := by
  rw [decode_eq_ok_iff, String.ofList_toList]

theorem decodeLossy_encode (text : String) : decodeLossy (encode text) = text.toList := by
  have read := decode_encode text
  unfold decode at read
  split at read
  · cases read
  · exact Except.ok.inj read

theorem encode_inj {left right : String} (same : encode left = encode right) : left = right := by
  have read := decode_encode left
  rw [same, decode_encode] at read
  exact (String.toList_inj.mp (Except.ok.inj read)).symm

theorem valid_iff (bytes : List UInt8) : Valid bytes ↔ ∃ chars, decode bytes = .ok chars := by
  constructor
  · rintro ⟨text, rfl⟩
    exact ⟨_, decode_encode text⟩
  · rintro ⟨chars, read⟩
    exact ⟨_, ((decode_eq_ok_iff _ _).mp read).symm⟩

/-- A state that bytes can lead to lets no line feed into a character. -/
def State.Sealed : State → Prop
  | .start => True
  | .inside _ _ low _ _ => 0x80 ≤ low

theorem sealed_next {state next : State} {byte : UInt8} (closed : state.Sealed)
    (stepped : step state byte.toNat = .more next) : next.Sealed := by
  cases state with
  | start =>
      simp only [step] at stepped
      repeat' split at stepped
      all_goals cases stepped
      all_goals simp [State.Sealed]
  | inside count owed low high bits =>
      simp only [step] at stepped
      repeat' split at stepped
      all_goals cases stepped
      exact Nat.le_refl 0x80

theorem spells_lineFeed (state : State) (closed : state.Sealed) (rest : List UInt8)
    (chars : List Char) :
    Spells state (0x0A :: rest) chars ↔
      state = .start ∧ ∃ others, chars = '\n' :: others ∧ Spells .start rest others := by
  cases state with
  | start =>
      have stepped : step .start (0x0A : UInt8).toNat = .char '\n' := rfl
      constructor
      · intro spelled
        cases spelled with
        | more other _ => cases stepped.symm.trans other
        | char same spelled =>
            cases stepped.symm.trans same
            exact ⟨rfl, _, rfl, spelled⟩
      · rintro ⟨-, others, rfl, spelled⟩
        exact .char stepped spelled
  | inside count owed low high bits =>
      have stepped : step (.inside count owed low high bits) (0x0A : UInt8).toNat =
          .broken count := by
        have outside : ¬(low ≤ (0x0A : UInt8).toNat ∧ (0x0A : UInt8).toNat ≤ high) := by
          have small : (0x0A : UInt8).toNat = 10 := rfl
          simp only [State.Sealed] at closed
          omega
        rw [step, if_neg outside]
      constructor
      · intro spelled
        cases spelled with
        | more other _ => cases stepped.symm.trans other
        | char other _ => cases stepped.symm.trans other
      · rintro ⟨impossible, -⟩
        cases impossible

theorem spells_append_lineFeed (first rest : List UInt8) (state : State) (closed : state.Sealed)
    (chars : List Char) :
    Spells state (first ++ 0x0A :: rest) chars ↔
      ∃ before after, chars = before ++ '\n' :: after ∧
        Spells state first before ∧ Spells .start rest after := by
  -- Along the bytes before the line feed, for every state they may be read from.
  induction first generalizing state chars with
  | nil =>
      rw [List.nil_append, spells_lineFeed state closed]
      constructor
      · rintro ⟨rfl, others, rfl, spelled⟩
        exact ⟨[], others, rfl, .done, spelled⟩
      · rintro ⟨before, after, rfl, empty, spelled⟩
        cases empty
        exact ⟨rfl, after, rfl, spelled⟩
  | cons byte first ih =>
      rw [List.cons_append]
      constructor
      · intro spelled
        cases spelled with
        | more stepped spelled =>
            obtain ⟨before, after, rfl, early, late⟩ :=
              (ih _ (sealed_next closed stepped) _).mp spelled
            exact ⟨before, after, rfl, .more stepped early, late⟩
        | char stepped spelled =>
            obtain ⟨before, after, rfl, early, late⟩ := (ih .start trivial _).mp spelled
            exact ⟨_ :: before, after, rfl, .char stepped early, late⟩
      · rintro ⟨before, after, rfl, early, late⟩
        cases early with
        | more stepped early =>
            exact .more stepped
              ((ih _ (sealed_next closed stepped) _).mpr ⟨before, after, rfl, early, late⟩)
        | char stepped early =>
            exact .char stepped ((ih .start trivial _).mpr ⟨_, after, rfl, early, late⟩)

theorem decode_append_lineFeed (first rest : List UInt8) (chars : List Char) :
    decode (first ++ 0x0A :: rest) = .ok chars ↔
      ∃ before after, chars = before ++ '\n' :: after ∧
        decode first = .ok before ∧ decode rest = .ok after := by
  simp only [decode_eq_ok_iff_spells]
  exact spells_append_lineFeed first rest .start trivial chars

theorem valid_append_lineFeed (first rest : List UInt8) :
    Valid (first ++ 0x0A :: rest) ↔ Valid first ∧ Valid rest := by
  simp only [valid_iff, decode_append_lineFeed]
  constructor
  · rintro ⟨_, before, after, -, early, late⟩
    exact ⟨⟨before, early⟩, after, late⟩
  · rintro ⟨⟨before, early⟩, after, late⟩
    exact ⟨_, before, after, rfl, early, late⟩

end TelemetryRelay.Text.Utf8
