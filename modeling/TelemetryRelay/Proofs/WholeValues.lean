import TelemetryRelay.Envelope.Decode
import TelemetryRelay.Proofs.Skipping

/-!
Readers against passing over. Whatever a reader of a type accepts is one whole value: it stops where
passing over the value stops.
-/

namespace TelemetryRelay.Json

theorem map_eq_ok {α β : Type} {action : Except Fault (α × List Char)} {convert : α → β}
    {result : β} {rest : List Char} :
    (do let (value, rest) ← action; return (convert value, rest)) = .ok (result, rest) ↔
      ∃ value, action = .ok (value, rest) ∧ convert value = result := by
  cases action with
  | error fault => simp [bind, Except.bind]
  | ok read =>
      obtain ⟨value, after⟩ := read
      simp [bind, Except.bind, pure, Except.pure, and_comm]

theorem skipCharacters_of_characters {text chars rest : List Char}
    (accepted : characters text = .ok (chars, rest)) : skipCharacters text = .ok rest := by
  -- A pair of surrogates is one character to the reader and two escapes to the other.
  fun_induction characters text generalizing chars
  case case5 | case11 | case15 | case18 =>
    obtain ⟨inner, read, -⟩ := map_eq_ok.mp accepted
    simp_all [skipCharacters]
  case case16 => simp_all [skipCharacters]
  all_goals cases accepted

theorem skipDigits_of_digits {text run rest : List Char}
    (accepted : digits text = .ok (run, rest)) : skipDigits text = .ok rest := by
  unfold digits at accepted
  unfold skipDigits
  split at accepted
  · cases accepted
  · cases accepted
    rfl

theorem skipWhole_of_wholeDigits {text run rest : List Char}
    (accepted : wholeDigits text = .ok (run, rest)) : skipWhole text = .ok rest := by
  obtain ⟨⟨first, after⟩, read, single⟩ := bind_eq_ok.mp accepted
  unfold skipWhole
  split
  · -- A digit behind a leading zero is refused in both readings.
    rename_i digit left
    have zero : Char.isDigit '0' = true := by decide
    simp only [digits, List.span_eq_takeWhile_dropWhile, List.takeWhile_cons,
      List.dropWhile_cons, zero, if_true] at read
    by_cases numeral : digit.isDigit = true
    · simp only [numeral, if_true] at read
      cases read
      cases single
    · simp only [numeral] at read
      cases read
      cases single
      simp [numeral]
  · have passed := skipDigits_of_digits read
    simp only at single
    split at single
    · cases single
    · cases single
      exact passed

theorem skipFraction_of_fraction? {text rest : List Char} {run : Option (List Char)}
    (accepted : fraction? text = .ok (run, rest)) : skipFraction text = .ok rest := by
  unfold fraction? at accepted
  unfold skipFraction
  split at accepted
  · obtain ⟨first, read, -⟩ := map_eq_ok.mp accepted
    exact skipDigits_of_digits read
  · cases accepted
    rfl

theorem skipExponent_of_exponent? {text rest : List Char} {power : Option Int}
    (accepted : exponent? text = .ok (power, rest)) : skipExponent text = .ok rest := by
  unfold exponent? at accepted
  unfold skipExponent
  split at accepted
  · split at accepted
    · rename_i marked
      rw [if_pos marked]
      split at accepted
      rename_i negative unsigned sign
      obtain ⟨⟨run, after⟩, read, same⟩ := bind_eq_ok.mp accepted
      cases same
      have passed := skipDigits_of_digits read
      split
      · cases sign
        exact passed
      · cases sign
        exact passed
      · rename_i noPlus noMinus
        split at sign
        · exact (noPlus _ rfl).elim
        · exact (noMinus _ rfl).elim
        · cases sign
          exact passed
    · rename_i unmarked
      rw [if_neg unmarked]
      cases accepted
      rfl
  · cases accepted
    rfl

theorem skipNumber_of_magnitude {text rest : List Char} {value : Number}
    (accepted : magnitude text = .ok (value, rest)) :
    (do
      let rest ← skipWhole text
      let rest ← skipFraction rest
      skipExponent rest) = .ok rest := by
  simp only [magnitude, bind_eq_ok] at accepted
  obtain ⟨⟨whole, afterWhole⟩, readWhole, ⟨fraction, afterFraction⟩, readFraction,
    ⟨power, afterPower⟩, readPower, assembled, -, same⟩ := accepted
  cases same
  simp only [bind_eq_ok]
  exact ⟨afterWhole, skipWhole_of_wholeDigits readWhole, afterFraction,
    skipFraction_of_fraction? readFraction, skipExponent_of_exponent? readPower⟩

theorem skipNumber_of_number {text rest : List Char} {value : Number}
    (accepted : number text = .ok (value, rest)) : skipNumber text = .ok rest := by
  unfold number at accepted
  unfold skipNumber
  split at accepted
  · obtain ⟨size, read, -⟩ := map_eq_ok.mp accepted
    exact skipNumber_of_magnitude read
  · exact skipNumber_of_magnitude accepted

def Whole {α : Type} (read : Reader α) : Prop :=
  ∀ (text : List Char) (value : α) (rest : List Char),
    read text = .ok (value, rest) → Passes text rest

theorem whole_map {α β : Type} {read : Reader α} (whole : Whole read) (convert : α → β) :
    Whole fun text => do
      let (value, rest) ← read text
      return (convert value, rest) := by
  intro text value rest accepted
  obtain ⟨inner, read, -⟩ := map_eq_ok.mp accepted
  exact whole _ _ _ read

theorem passes_of_characters {text quoted chars rest : List Char}
    (opened : skipBlank text = '"' :: quoted) (read : characters quoted = .ok (chars, rest)) :
    Passes text rest := by
  apply passes_of_skipScalar
  rw [opened]
  exact skipCharacters_of_characters read

theorem whole_string : Whole string := by
  intro text value rest accepted
  unfold string at accepted
  split at accepted
  · rename_i quoted opened
    obtain ⟨chars, read, -⟩ := map_eq_ok.mp accepted
    exact passes_of_characters opened read
  · cases accepted

theorem skipScalar_of_numeral {char : Char} {text : List Char}
    (numeral : char = '-' ∨ char.isDigit = true) :
    skipScalar (char :: text) = skipNumber (char :: text) := by
  unfold skipScalar
  split <;> rename_i same <;> cases same
  case h_6 => rw [if_pos numeral]
  all_goals simp at numeral

theorem whole_numeric {α : Type} (expected : String) (accept : Number → Except Fault α) :
    Whole (numeric expected accept) := by
  intro text value rest accepted
  unfold numeric at accepted
  split at accepted
  · cases accepted
  · rename_i char after stripped
    split at accepted
    · rename_i numeral
      obtain ⟨⟨number, left⟩, read, accepted⟩ := bind_eq_ok.mp accepted
      obtain ⟨converted, -, same⟩ := bind_eq_ok.mp accepted
      cases same
      apply passes_of_skipScalar
      rw [stripped, skipScalar_of_numeral numeral]
      exact skipNumber_of_number read
    · cases accepted

theorem whole_int64 : Whole int64 :=
  whole_map (whole_numeric _ _) Int64.ofInt

theorem whole_uint64 : Whole uint64 :=
  whole_map (whole_numeric _ _) fun value : Int => UInt64.ofNat value.toNat

theorem whole_uint16 : Whole uint16 :=
  whole_map (whole_numeric _ _) fun value : Int => UInt16.ofNat value.toNat

theorem whole_float : Whole float :=
  whole_numeric _ _

theorem whole_boolean : Whole boolean := by
  intro text value rest accepted
  unfold boolean at accepted
  apply passes_of_skipScalar
  split at accepted
  · rename_i after opened
    obtain ⟨left, passed, same⟩ := bind_eq_ok.mp accepted
    cases same
    rw [opened]
    exact passed
  · rename_i after opened
    obtain ⟨left, passed, same⟩ := bind_eq_ok.mp accepted
    cases same
    rw [opened]
    exact passed
  · cases accepted

theorem passes_of_null {text after rest : List Char} (opened : skipBlank text = 'n' :: after)
    (passed : word ['u', 'l', 'l'] after = .ok rest) : Passes text rest := by
  apply passes_of_skipScalar
  rw [opened]
  exact passed

theorem whole_unit : Whole unit := by
  intro text value rest accepted
  unfold unit at accepted
  split at accepted
  · rename_i after opened
    obtain ⟨left, passed, same⟩ := bind_eq_ok.mp accepted
    cases same
    exact passes_of_null opened passed
  · cases accepted

theorem whole_optional {α : Type} {read : Reader α} (whole : Whole read) :
    Whole (optional read) := by
  intro text value rest accepted
  unfold optional at accepted
  split at accepted
  · rename_i after opened
    obtain ⟨left, passed, same⟩ := bind_eq_ok.mp accepted
    cases same
    exact passes_of_null opened passed
  · obtain ⟨inner, read, -⟩ := map_eq_ok.mp accepted
    exact passes_skipBlank.mp (whole _ _ _ read)

def WholeMember {State : Type} (member : String → State → Reader State) : Prop :=
  ∀ {key : String} {state next : State} {text rest : List Char},
    member key state text = .ok (next, rest) → ∃ value, colon text = .ok value ∧ Passes value rest

theorem passes_of_membersWithin {State : Type} {member : String → State → Reader State}
    (whole : WholeMember member) {count : Nat} {first : Bool} {state final : State}
    {text rest : List Char}
    (accepted : membersWithin member count first state text = .ok (final, rest))
    (frames : List Frame) : skipMembersIn first frames text = skipRestIn frames rest := by
  induction count generalizing first state text with
  | zero => cases accepted
  | succ count ih =>
      obtain ⟨found, next, accepted⟩ := bind_eq_ok.mp accepted
      cases found with
      | closed after =>
          cases accepted
          exact skipMembersIn_of_closed next frames
      | key quoted =>
          obtain ⟨⟨key, afterKey⟩, read, accepted⟩ := bind_eq_ok.mp accepted
          obtain ⟨⟨changed, afterItem⟩, item, accepted⟩ := bind_eq_ok.mp accepted
          obtain ⟨value, separated, passes⟩ := whole item
          rw [← ih accepted]
          exact skipMembersIn_of_key next (skipCharacters_of_characters read) separated passes
            frames

theorem wholeMember_text : WholeMember textMember := by
  intro key state next text rest accepted
  obtain ⟨value, separated, accepted⟩ := bind_eq_ok.mp accepted
  obtain ⟨⟨written, after⟩, read, same⟩ := bind_eq_ok.mp accepted
  cases same
  exact ⟨value, separated, whole_string _ _ _ read⟩

theorem whole_texts : Whole texts := by
  intro text value rest accepted
  unfold texts at accepted
  split at accepted
  · rename_i inner opened
    obtain ⟨entries, read, -⟩ := map_eq_ok.mp accepted
    exact passes_of_members opened (passes_of_membersWithin wholeMember_text read)
  · cases accepted

theorem whole_field {State α : Type} {reader : Reader α} (whole : Whole reader) (key : String)
    (absence : Absence) (store : α → State → State) :
    Whole (Field.of key absence reader store).read :=
  whole_map whole store

namespace Record

variable {State : Type} {record : Record State}

theorem wholeMember_member (whole : ∀ field ∈ record.fields, Whole field.read) :
    WholeMember record.member := by
  intro key state next text rest accepted
  unfold member at accepted
  split at accepted
  · obtain ⟨value, separated, accepted⟩ := bind_eq_ok.mp accepted
    obtain ⟨after, passed, same⟩ := bind_eq_ok.mp accepted
    cases same
    exact ⟨value, separated, passes_iff.mpr passed⟩
  · rename_i field found
    split at accepted
    · cases accepted
    · obtain ⟨value, separated, accepted⟩ := bind_eq_ok.mp accepted
      obtain ⟨⟨change, after⟩, read, same⟩ := bind_eq_ok.mp accepted
      cases same
      exact ⟨value, separated, whole field (List.mem_of_find?_eq_some found) _ _ _ read⟩

theorem passes_of_readElements {first : Bool} {place : Nat} {fields : List (Field State)}
    {state final : State} {text rest : List Char} (whole : ∀ field ∈ fields, Whole field.read)
    (accepted : record.readElements first place fields state text = .ok (final, rest))
    (frames : List Frame) : skipElementsIn first frames text = skipRestIn frames rest := by
  induction fields generalizing first place state text with
  | nil =>
      obtain ⟨after, closed, same⟩ := bind_eq_ok.mp accepted
      cases same
      exact skipElementsIn_of_closed closed first frames
  | cons field fields ih =>
      obtain ⟨found, next, accepted⟩ := bind_eq_ok.mp accepted
      cases found with
      | none =>
          simp only at accepted
          split at accepted
          · exact ih (fun field member => whole field (List.mem_cons_of_mem _ member)) accepted
          · cases accepted
      | some item =>
          obtain ⟨⟨change, after⟩, read, accepted⟩ := bind_eq_ok.mp accepted
          rw [← ih (fun field member => whole field (List.mem_cons_of_mem _ member)) accepted]
          exact skipElementsIn_of_element next (whole field List.mem_cons_self _ _ _ read)
            frames

theorem whole_read (whole : ∀ field ∈ record.fields, Whole field.read) : Whole record.read := by
  intro text value rest accepted
  unfold read at accepted
  split at accepted
  · cases accepted
  · rename_i inner opened
    obtain ⟨⟨⟨keys, state⟩, after⟩, read, accepted⟩ := bind_eq_ok.mp accepted
    apply passes_of_members opened
    simp only at accepted
    split at accepted
    · cases accepted
    · cases accepted
      exact passes_of_membersWithin (wholeMember_member whole) read
  · rename_i inner opened
    exact passes_of_elements opened (passes_of_readElements whole accepted)
  · cases accepted

end Record

end TelemetryRelay.Json

namespace TelemetryRelay.Envelope

open Json

theorem whole_readType : Whole readType := by
  intro text type rest accepted
  unfold readType at accepted
  split at accepted
  · cases accepted
  · rename_i quoted opened
    obtain ⟨⟨name, after⟩, read, same⟩ := bind_eq_ok.mp accepted
    cases same
    exact passes_of_characters opened read
  · rename_i inner opened
    apply passes_of_members opened
    split at accepted
    · cases accepted
    · cases accepted
    · rename_i quoted stripped
      obtain ⟨⟨name, afterName⟩, read, accepted⟩ := bind_eq_ok.mp accepted
      obtain ⟨value, separated, accepted⟩ := bind_eq_ok.mp accepted
      obtain ⟨⟨nothing, afterValue⟩, null, accepted⟩ := bind_eq_ok.mp accepted
      simp only at accepted
      have key : nextMember true inner = .ok (.key quoted) := by
        rw [nextMember, stripped]
        rfl
      split at accepted
      · cases accepted
      · rename_i after closed
        cases accepted
        have last : nextMember false afterValue = .ok (.closed rest) := by
          rw [nextMember, closed]
          rfl
        intro frames
        rw [skipMembersIn_of_key key (skipCharacters_of_characters read) separated
          (whole_unit _ _ _ null), skipMembersIn_of_closed last]
      · cases accepted
    · cases accepted
  · cases accepted

theorem whole_readTags : Whole readTags := by
  intro text tags rest accepted
  obtain ⟨⟨pairs, after⟩, read, same⟩ := bind_eq_ok.mp accepted
  cases same
  exact whole_texts _ _ _ read

theorem whole_valueMetric_field : ∀ field ∈ valueMetricRecord.fields, Whole field.read := by
  simp only [valueMetricRecord, List.forall_mem_cons]
  exact ⟨whole_field whole_string _ _ _, whole_field whole_float _ _ _,
    whole_field whole_string _ _ _, by simp⟩

theorem whole_counterEvent_field : ∀ field ∈ counterEventRecord.fields, Whole field.read := by
  simp only [counterEventRecord, List.forall_mem_cons]
  exact ⟨whole_field whole_string _ _ _, whole_field whole_uint64 _ _ _,
    whole_field whole_uint64 _ _ _, by simp⟩

theorem whole_draft_field : ∀ field ∈ draftRecord.fields, Whole field.read := by
  have text := whole_optional whole_string
  have metric := whole_optional (Record.whole_read whole_valueMetric_field)
  have counter := whole_optional (Record.whole_read whole_counterEvent_field)
  simp only [draftRecord, List.forall_mem_cons]
  exact ⟨whole_field text _ _ _, whole_field whole_readType _ _ _, whole_field whole_int64 _ _ _,
    whole_field text _ _ _, whole_field text _ _ _, whole_field text _ _ _,
    whole_field text _ _ _, whole_field whole_readTags _ _ _, whole_field metric _ _ _,
    whole_field counter _ _ _, by simp⟩

end TelemetryRelay.Envelope
