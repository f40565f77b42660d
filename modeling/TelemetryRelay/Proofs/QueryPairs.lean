import TelemetryRelay.Proofs.Utf8
import TelemetryRelay.Url.Form

/-!
The pairs of a query. A text in form encoding is read back as it was, whatever its characters, and
it holds no mark; so a pair that is appended to a query is the last of its pairs, and the others
are those of the query.
-/

namespace TelemetryRelay.Url

namespace Percent

theorem decode_byte (value : UInt8) (rest : List Char) :
    decode (byte value ++ rest) = value :: decode rest := by
  have bounded : value.toNat < 256 := value.toNat_lt
  have high := Text.Hex.value?_upper (value.toNat / 16) (by omega)
  have low := Text.Hex.value?_upper (value.toNat % 16) (by omega)
  have whole : value.toNat / 16 * 16 + value.toNat % 16 = value.toNat := by omega
  simp only [byte, List.cons_append, List.nil_append, decode, high, low, whole, UInt8.ofNat_toNat]

theorem decode_bytes (values : List UInt8) (rest : List Char) :
    decode (values.flatMap byte ++ rest) = values ++ decode rest := by
  induction values with
  | nil => rfl
  | cons value others ih =>
      rw [List.flatMap_cons, List.append_assoc, decode_byte, ih, List.cons_append]

theorem decode_cons {char : Char} (plain : char ≠ '%') (rest : List Char) :
    decode (char :: rest) = String.utf8EncodeChar char ++ decode rest := by
  rw [decode]
  intro high low after same
  exact absurd same plain

theorem isAlphanum_upper (value : Nat) (bounded : value < 16) :
    (Text.Hex.upper value).isAlphanum = true := by
  have all : ∀ digit : Fin 16, (Text.Hex.upper digit.val).isAlphanum = true := by decide
  exact all ⟨value, bounded⟩

theorem of_mem_byte {value : UInt8} {char : Char} (member : char ∈ byte value) :
    char = '%' ∨ char.isAlphanum = true := by
  have bounded : value.toNat < 256 := value.toNat_lt
  simp only [byte, List.mem_cons, List.not_mem_nil, or_false] at member
  rcases member with sign | high | low
  · exact .inl sign
  · exact .inr (high ▸ isAlphanum_upper _ (by omega))
  · exact .inr (low ▸ isAlphanum_upper _ (by omega))

end Percent

namespace Form

def spaced (text : List Char) : List Char :=
  text.map fun char => if char = '+' then ' ' else char

def decode (text : List Char) : String :=
  String.ofList (Text.Utf8.decodeLossy (Percent.decode (spaced text)))

def pair (piece : List Char) : String × String :=
  (decode (piece.takeWhile (· ≠ '=')), decode ((piece.dropWhile (· ≠ '=')).drop 1))

/-- The pairs of a query. Where nothing stands between two `&` there is no pair. -/
def pairs (query : List Char) : List (String × String) :=
  ((query.splitOn '&').filter fun piece => !piece.isEmpty).map pair

def encodeChar (char : Char) : List Char :=
  if char = ' ' then ['+'] else Percent.encode keeps [char]

theorem encode_eq (text : String) : encode text = text.toList.flatMap encodeChar := rfl

theorem encodeChar_of_keeps {char : Char} (kept : keeps char = true) :
    encodeChar char = [char] := by
  have visible : char ≠ ' ' := by
    rintro rfl
    exact absurd kept (by decide)
  simp [encodeChar, visible, Percent.encode, kept]

theorem encodeChar_of_not_keeps {char : Char} (visible : char ≠ ' ')
    (foreign : keeps char = false) :
    encodeChar char = (String.utf8EncodeChar char).flatMap Percent.byte := by
  simp [encodeChar, visible, Percent.encode, foreign]

theorem keeps_of_isAlphanum {char : Char} (plain : char.isAlphanum = true) : keeps char = true := by
  simp [keeps, plain]

theorem of_mem_encodeChar {char written : Char} (member : written ∈ encodeChar char) :
    written = '+' ∨ written = '%' ∨ keeps written = true := by
  by_cases space : char = ' '
  · rw [encodeChar, if_pos space] at member
    exact .inl (List.mem_singleton.mp member)
  · cases kept : keeps char with
    | true =>
        rw [encodeChar_of_keeps kept] at member
        exact .inr (.inr (List.mem_singleton.mp member ▸ kept))
    | false =>
        rw [encodeChar_of_not_keeps space kept] at member
        obtain ⟨value, -, inside⟩ := List.mem_flatMap.mp member
        exact .inr ((Percent.of_mem_byte inside).imp_right keeps_of_isAlphanum)

theorem mark_not_mem_encode {mark : Char} (isMark : mark = '&' ∨ mark = '=') (text : String) :
    mark ∉ encode text := by
  intro member
  obtain ⟨char, -, inside⟩ := List.mem_flatMap.mp member
  rcases of_mem_encodeChar inside with plus | percent | kept
  · rcases isMark with rfl | rfl <;> cases plus
  · rcases isMark with rfl | rfl <;> cases percent
  · obtain ⟨separator, equals⟩ := keeps_ne_mark kept
    exact isMark.elim separator equals

theorem spaced_append (first second : List Char) :
    spaced (first ++ second) = spaced first ++ spaced second :=
  List.map_append

theorem spaced_eq_self {text : List Char} (plain : '+' ∉ text) : spaced text = text := by
  have each : ∀ char ∈ text, (if char = '+' then ' ' else char) = id char := by
    intro char member
    refine if_neg ?_
    rintro rfl
    exact plain member
  rw [spaced, List.map_congr_left each, List.map_id]

theorem plus_not_mem_bytes (values : List UInt8) : '+' ∉ values.flatMap Percent.byte := by
  intro member
  obtain ⟨value, -, inside⟩ := List.mem_flatMap.mp member
  rcases Percent.of_mem_byte inside with percent | alphanumeric
  · cases percent
  · exact absurd alphanumeric (by decide)

/-- A character is read back whatever follows it. A plus is taken for a space before the rest is
read, so no character may be written with a plus of its own. -/
theorem decode_encodeChar (char : Char) (rest : List Char) :
    Percent.decode (spaced (encodeChar char ++ rest)) =
      String.utf8EncodeChar char ++ Percent.decode (spaced rest) := by
  rw [spaced_append]
  by_cases space : char = ' '
  · rw [encodeChar, if_pos space, space]
    exact Percent.decode_cons (by decide) _
  · cases kept : keeps char with
    | true =>
        have notSign (sign : Char) (foreign : keeps sign = false) : char ≠ sign := by
          rintro rfl
          exact Bool.noConfusion (kept.symm.trans foreign)
        have single : '+' ∉ [char] := by
          simpa using (notSign '+' (by decide)).symm
        rw [encodeChar_of_keeps kept, spaced_eq_self single]
        exact Percent.decode_cons (notSign '%' (by decide)) _
    | false =>
        rw [encodeChar_of_not_keeps space kept, spaced_eq_self (plus_not_mem_bytes _),
          Percent.decode_bytes]

theorem decode_encode (text : String) : decode (encode text) = text := by
  have bytes (chars : List Char) : Percent.decode (spaced (chars.flatMap encodeChar)) =
      chars.flatMap String.utf8EncodeChar := by
    induction chars with
    | nil => rfl
    | cons char rest ih => rw [List.flatMap_cons, decode_encodeChar, ih, List.flatMap_cons]
  rw [decode, encode_eq, bytes, ← Text.Utf8.encode, Text.Utf8.decodeLossy_encode,
    String.ofList_toList]

theorem pair_append_cons {key : List Char} (plain : '=' ∉ key) (value : List Char) :
    pair (key ++ '=' :: value) = (decode key, decode value) := by
  have before : ∀ char ∈ key, decide (char ≠ '=') = true := by
    intro char member
    refine decide_eq_true ?_
    rintro rfl
    exact plain member
  rw [pair, List.takeWhile_append_of_pos before, List.dropWhile_append_of_pos before]
  simp

theorem pairs_append_cons (before after : List Char) :
    pairs (before ++ '&' :: after) = pairs before ++ pairs after := by
  rw [pairs, List.splitOn_append_cons_self, List.filter_append, List.map_append]
  rfl

theorem pairs_pair (key value : String) :
    pairs (encode key ++ '=' :: encode value) = [(key, value)] := by
  have separate : '&' ∉ encode key ++ '=' :: encode value := by
    simp [mark_not_mem_encode (.inl rfl)]
  have written : pair (encode key ++ '=' :: encode value) = (key, value) := by
    rw [pair_append_cons (mark_not_mem_encode (.inr rfl) key), decode_encode, decode_encode]
  rw [pairs, List.splitOn_eq_singleton separate]
  simp [written]

theorem pairs_append (query : Option (List Char)) (key value : String) :
    pairs (append query key value) = pairs (query.getD []) ++ [(key, value)] := by
  unfold append
  split
  · exact pairs_pair key value
  · exact pairs_pair key value
  · rw [pairs_append_cons, pairs_pair]
    rfl

theorem append_inj {query : Option (List Char)} {key value other : String}
    (same : append query key value = append query key other) : value = other := by
  have pairs := congrArg pairs same
  simpa [pairs_append] using pairs

end Form

end TelemetryRelay.Url
