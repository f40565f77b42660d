import Mathlib.Data.List.DropRight
import Mathlib.Data.List.TakeDrop
import TelemetryRelay.Json.Record

/-!
Passing over values. The steps that are counted do not matter as long as they suffice, and a value
is passed over in the same way whatever it lies in. What a reader has to agree with is therefore one
relation, `Passes`, that says where the value ends that begins with a text.
-/

namespace TelemetryRelay.Json

theorem bind_eq_ok {ε α β : Type} {action : Except ε α} {next : α → Except ε β} {result : β} :
    (action >>= next) = .ok result ↔ ∃ value, action = .ok value ∧ next value = .ok result := by
  cases action with
  | error fault => simp [bind, Except.bind]
  | ok value => simp [bind, Except.bind]

theorem length_skipBlank_le (text : List Char) : (skipBlank text).length ≤ text.length :=
  (List.dropWhile_suffix isBlank).length_le

theorem length_of_skipBlank {text rest : List Char} {char : Char}
    (stripped : skipBlank text = char :: rest) : rest.length < text.length := by
  have blanks := length_skipBlank_le text
  rwa [stripped, List.length_cons] at blanks

theorem length_of_word {letters text rest : List Char} (passed : word letters text = .ok rest) :
    rest.length ≤ text.length := by
  induction letters generalizing text with
  | nil =>
      cases passed
      exact Nat.le_refl _
  | cons letter letters ih =>
      cases text with
      | nil => cases passed
      | cons char text =>
          simp only [word] at passed
          split at passed
          · exact Nat.le_succ_of_le (ih passed)
          · cases passed

theorem length_of_skipCharacters {text rest : List Char}
    (passed : skipCharacters text = .ok rest) : rest.length < text.length := by
  fun_induction skipCharacters text <;> simp_all <;> omega

theorem length_of_skipDigits {text rest : List Char} (passed : skipDigits text = .ok rest) :
    rest.length < text.length := by
  have parts := List.takeWhile_append_dropWhile (p := Char.isDigit) (l := text)
  simp only [skipDigits, List.span_eq_takeWhile_dropWhile] at passed
  split at passed
  · cases passed
  · rename_i run left nonempty spanned
    cases passed
    obtain ⟨rfl, rfl⟩ := Prod.mk.inj spanned
    have total := congrArg List.length parts
    have positive : 0 < (text.takeWhile Char.isDigit).length :=
      List.length_pos_iff.mpr nonempty
    rw [List.length_append] at total
    omega

theorem length_of_skipWhole {text rest : List Char} (passed : skipWhole text = .ok rest) :
    rest.length < text.length := by
  unfold skipWhole at passed
  split at passed
  · split at passed
    · cases passed
    · cases passed
      simp
  · exact length_of_skipDigits passed

theorem length_of_skipFraction {text rest : List Char} (passed : skipFraction text = .ok rest) :
    rest.length ≤ text.length := by
  unfold skipFraction at passed
  split at passed
  · exact Nat.le_of_lt (Nat.lt_succ_of_lt (length_of_skipDigits passed))
  · cases passed
    exact Nat.le_refl _

theorem length_of_skipExponent {text rest : List Char} (passed : skipExponent text = .ok rest) :
    rest.length ≤ text.length := by
  unfold skipExponent at passed
  split at passed
  · split at passed
    · split at passed
      · exact Nat.le_of_lt (Nat.lt_succ_of_lt (Nat.lt_succ_of_lt (length_of_skipDigits passed)))
      · exact Nat.le_of_lt (Nat.lt_succ_of_lt (Nat.lt_succ_of_lt (length_of_skipDigits passed)))
      · exact Nat.le_of_lt (Nat.lt_succ_of_lt (length_of_skipDigits passed))
    · cases passed
      exact Nat.le_refl _
  · cases passed
    exact Nat.le_refl _

theorem length_of_skipNumber {text rest : List Char} (passed : skipNumber text = .ok rest) :
    rest.length < text.length := by
  simp only [skipNumber, bind_eq_ok] at passed
  obtain ⟨afterWhole, whole, afterFraction, fraction, exponent⟩ := passed
  have first := length_of_skipWhole whole
  have second := length_of_skipFraction fraction
  have third := length_of_skipExponent exponent
  split at first
  · exact Nat.lt_succ_of_lt (by omega)
  · omega

theorem length_of_skipScalar {text rest : List Char} (passed : skipScalar text = .ok rest) :
    rest.length < text.length := by
  unfold skipScalar at passed
  split at passed
  · cases passed
  · exact Nat.lt_succ_of_le (length_of_word passed)
  · exact Nat.lt_succ_of_le (length_of_word passed)
  · exact Nat.lt_succ_of_le (length_of_word passed)
  · exact Nat.lt_succ_of_lt (length_of_skipCharacters passed)
  · split at passed
    · exact length_of_skipNumber passed
    · cases passed

theorem length_of_colon {text rest : List Char} (passed : colon text = .ok rest) :
    rest.length < text.length := by
  unfold colon at passed
  split at passed
  · cases passed
  · rename_i after stripped
    cases passed
    exact length_of_skipBlank stripped
  · cases passed

theorem length_of_skipKey {text rest : List Char} (passed : skipKey text = .ok rest) :
    rest.length < text.length := by
  unfold skipKey at passed
  split at passed
  · cases passed
  · rename_i quoted stripped
    obtain ⟨afterKey, key, separator⟩ := bind_eq_ok.mp passed
    have quote := length_of_skipBlank stripped
    have first := length_of_skipCharacters key
    have second := length_of_colon separator
    omega
  · cases passed

def valueStep (value rest : List Frame → List Char → Except Fault (List Char))
    (frames : List Frame) (text : List Char) : Except Fault (List Char) :=
  match skipBlank text with
  | '[' :: inner =>
    match skipBlank inner with
    | [] => .error (.unfinished .list)
    | ']' :: after => rest frames after
    | _ => value (.list :: frames) inner
  | '\x7b' :: inner =>
    match skipBlank inner with
    | '\x7d' :: after => rest frames after
    | _ => do
      let item ← skipKey inner
      value (.object :: frames) item
  | scalar => do
    let after ← skipScalar scalar
    rest frames after

def restStep (value rest : List Frame → List Char → Except Fault (List Char))
    (frames : List Frame) (text : List Char) : Except Fault (List Char) :=
  match frames with
  | [] => .ok text
  | .list :: outer =>
    match skipBlank text with
    | [] => .error (.unfinished .list)
    | ',' :: item => value (.list :: outer) item
    | ']' :: after => rest outer after
    | _ => .error (.broken .listSeparator)
  | .object :: outer =>
    match skipBlank text with
    | [] => .error (.unfinished .object)
    | ',' :: key => do
      let item ← skipKey key
      value (.object :: outer) item
    | '\x7d' :: after => rest outer after
    | _ => .error (.broken .objectSeparator)

theorem skipValueWithin_succ (steps : Nat) (frames : List Frame) (text : List Char) :
    skipValueWithin (steps + 1) frames text =
      valueStep (skipValueWithin steps) (skipRestWithin steps) frames text := by
  rw [skipValueWithin]
  rfl

theorem skipRestWithin_succ (steps : Nat) (frames : List Frame) (text : List Char) :
    skipRestWithin (steps + 1) frames text =
      restStep (skipValueWithin steps) (skipRestWithin steps) frames text := by
  cases frames with
  | nil => simp only [skipRestWithin, restStep]
  | cons frame outer =>
      cases frame <;> rw [skipRestWithin] <;> rfl

section

variable {value rest otherValue otherRest : List Frame → List Char → Except Fault (List Char)}
  {text : List Char}
  (values : ∀ frames shorter, shorter.length < text.length →
    value frames shorter = otherValue frames shorter)
  (rests : ∀ frames shorter, shorter.length < text.length →
    rest frames shorter = otherRest frames shorter)

include values rests

theorem valueStep_congr (frames : List Frame) :
    valueStep value rest frames text = valueStep otherValue otherRest frames text := by
  unfold valueStep
  split
  · rename_i inner opened
    have bracket := length_of_skipBlank opened
    split
    · rfl
    · rename_i after closed
      exact rests _ _ (Nat.lt_trans (length_of_skipBlank closed) bracket)
    · exact values _ _ bracket
  · rename_i inner opened
    have bracket := length_of_skipBlank opened
    split
    · rename_i after closed
      exact rests _ _ (Nat.lt_trans (length_of_skipBlank closed) bracket)
    · cases key : skipKey inner with
      | error fault => rfl
      | ok item => exact values _ _ (Nat.lt_trans (length_of_skipKey key) bracket)
  · cases scalar : skipScalar (skipBlank text) with
    | error fault => rfl
    | ok after =>
        have blanks := length_skipBlank_le text
        exact rests _ _ (Nat.lt_of_lt_of_le (length_of_skipScalar scalar) blanks)

theorem restStep_congr (frames : List Frame) :
    restStep value rest frames text = restStep otherValue otherRest frames text := by
  unfold restStep
  split
  · rfl
  · split
    · rfl
    · rename_i item separated
      exact values _ _ (length_of_skipBlank separated)
    · rename_i after closed
      exact rests _ _ (length_of_skipBlank closed)
    · rfl
  · split
    · rfl
    · rename_i key separated
      cases passed : skipKey key with
      | error fault => rfl
      | ok item =>
          exact values _ _ (Nat.lt_trans (length_of_skipKey passed) (length_of_skipBlank separated))
    · rename_i after closed
      exact rests _ _ (length_of_skipBlank closed)
    · rfl

end

/-- As many steps as the text has characters suffice, and more of them change nothing. -/
theorem skipWithin_eq {steps other : Nat} {text : List Char} (enough : text.length < steps)
    (otherEnough : text.length < other) (frames : List Frame) :
    skipValueWithin steps frames text = skipValueWithin other frames text ∧
      skipRestWithin steps frames text = skipRestWithin other frames text := by
  induction steps generalizing other text frames with
  | zero => omega
  | succ steps ih =>
      cases other with
      | zero => omega
      | succ other =>
          have values (frames : List Frame) (shorter : List Char)
              (less : shorter.length < text.length) :
              skipValueWithin steps frames shorter = skipValueWithin other frames shorter :=
            (ih (by omega) (by omega) frames).1
          have rests (frames : List Frame) (shorter : List Char)
              (less : shorter.length < text.length) :
              skipRestWithin steps frames shorter = skipRestWithin other frames shorter :=
            (ih (by omega) (by omega) frames).2
          rw [skipValueWithin_succ, skipValueWithin_succ, skipRestWithin_succ, skipRestWithin_succ]
          exact ⟨valueStep_congr values rests frames, restStep_congr values rests frames⟩

def skipValueIn (frames : List Frame) (text : List Char) : Except Fault (List Char) :=
  skipValueWithin (text.length + 1) frames text

def skipRestIn (frames : List Frame) (text : List Char) : Except Fault (List Char) :=
  skipRestWithin (text.length + 1) frames text

theorem skipValueIn_eq (frames : List Frame) (text : List Char) :
    skipValueIn frames text = valueStep skipValueIn skipRestIn frames text := by
  rw [skipValueIn, skipValueWithin_succ]
  apply valueStep_congr
  · intro frames shorter less
    exact (skipWithin_eq less (Nat.lt_succ_self _) frames).1
  · intro frames shorter less
    exact (skipWithin_eq less (Nat.lt_succ_self _) frames).2

theorem skipRestIn_eq (frames : List Frame) (text : List Char) :
    skipRestIn frames text = restStep skipValueIn skipRestIn frames text := by
  rw [skipRestIn, skipRestWithin_succ]
  apply restStep_congr
  · intro frames shorter less
    exact (skipWithin_eq less (Nat.lt_succ_self _) frames).1
  · intro frames shorter less
    exact (skipWithin_eq less (Nat.lt_succ_self _) frames).2

theorem skipWithin_append {steps : Nat} {frames : List Frame} {text rest : List Char}
    (outer : List Frame) :
    (skipValueWithin steps frames text = .ok rest →
      skipValueIn (frames ++ outer) text = skipRestIn outer rest) ∧
    (skipRestWithin steps frames text = .ok rest →
      skipRestIn (frames ++ outer) text = skipRestIn outer rest) := by
  -- By steps of the run inside, which ends where the outer frames are looked at first.
  induction steps generalizing frames text with
  | zero =>
      constructor
      · intro passed
        simp [skipValueWithin] at passed
      · intro passed
        cases frames with
        | nil =>
            simp only [skipRestWithin] at passed
            cases passed
            rfl
        | cons frame frames => simp [skipRestWithin] at passed
  | succ steps ih =>
      constructor
      · intro passed
        rw [skipValueWithin_succ] at passed
        rw [skipValueIn_eq]
        unfold valueStep at passed ⊢
        split at passed
        · split at passed
          · cases passed
          · exact ih.2 passed
          · exact ih.1 passed
        · split at passed
          · exact ih.2 passed
          · obtain ⟨item, key, passed⟩ := bind_eq_ok.mp passed
            rw [key]
            exact ih.1 passed
        · obtain ⟨after, scalar, passed⟩ := bind_eq_ok.mp passed
          rw [scalar]
          exact ih.2 passed
      · intro passed
        rw [skipRestWithin_succ] at passed
        cases frames with
        | nil =>
            cases passed
            rfl
        | cons frame frames =>
            rw [List.cons_append, skipRestIn_eq]
            cases frame with
            | list =>
                simp only [restStep] at passed ⊢
                split at passed
                · cases passed
                · exact ih.1 passed
                · exact ih.2 passed
                · cases passed
            | object =>
                simp only [restStep] at passed ⊢
                split at passed
                · cases passed
                · obtain ⟨item, key, passed⟩ := bind_eq_ok.mp passed
                  rw [key]
                  exact ih.1 passed
                · exact ih.2 passed
                · cases passed

/-- A value begins at `text`, and `rest` follows it, whatever it lies in. -/
def Passes (text rest : List Char) : Prop :=
  ∀ frames, skipValueIn frames text = skipRestIn frames rest

theorem passes_iff {text rest : List Char} : Passes text rest ↔ skipValue text = .ok rest := by
  constructor
  · intro passes
    exact (passes []).trans (by simp only [skipRestIn, skipRestWithin])
  · intro passed outer
    have alone : skipValueWithin (text.length + 1) [] text = .ok rest := passed
    exact (skipWithin_append outer).1 alone

theorem skipBlank_skipBlank (text : List Char) : skipBlank (skipBlank text) = skipBlank text :=
  List.dropWhile_idempotent isBlank text

theorem skipValueIn_skipBlank (frames : List Frame) (text : List Char) :
    skipValueIn frames (skipBlank text) = skipValueIn frames text := by
  rw [skipValueIn_eq, skipValueIn_eq frames text, valueStep, valueStep, skipBlank_skipBlank]

theorem passes_skipBlank {text rest : List Char} :
    Passes (skipBlank text) rest ↔ Passes text rest := by
  simp only [Passes, skipValueIn_skipBlank]

theorem passes_of_skipScalar {text rest : List Char}
    (passed : skipScalar (skipBlank text) = .ok rest) : Passes text rest := by
  intro frames
  rw [skipValueIn_eq, valueStep]
  split
  · rename_i inner opened
    rw [opened] at passed
    cases passed
  · rename_i inner opened
    rw [opened] at passed
    cases passed
  · rw [passed]
    rfl

def skipElementsIn (first : Bool) (frames : List Frame) (text : List Char) :
    Except Fault (List Char) :=
  if first then
    match skipBlank text with
    | [] => .error (.unfinished .list)
    | ']' :: after => skipRestIn frames after
    | _ => skipValueIn (.list :: frames) text
  else skipRestIn (.list :: frames) text

def skipMembersIn (first : Bool) (frames : List Frame) (text : List Char) :
    Except Fault (List Char) :=
  if first then
    match skipBlank text with
    | '\x7d' :: after => skipRestIn frames after
    | _ => do
      let item ← skipKey text
      skipValueIn (.object :: frames) item
  else skipRestIn (.object :: frames) text

theorem passes_of_elements {text inner rest : List Char} (opened : skipBlank text = '[' :: inner)
    (passed : ∀ frames, skipElementsIn true frames inner = skipRestIn frames rest) :
    Passes text rest := by
  intro frames
  rw [← passed, skipValueIn_eq, valueStep, opened]
  rfl

theorem passes_of_members {text inner rest : List Char} (opened : skipBlank text = '\x7b' :: inner)
    (passed : ∀ frames, skipMembersIn true frames inner = skipRestIn frames rest) :
    Passes text rest := by
  intro frames
  rw [← passed, skipValueIn_eq, valueStep, opened]
  rfl

theorem skipElementsIn_of_element {first : Bool} {text item rest : List Char}
    (found : Record.nextElement first text = .ok (some item)) (passes : Passes item rest)
    (frames : List Frame) :
    skipElementsIn first frames text = skipElementsIn false frames rest := by
  refine Eq.trans ?_ (passes (.list :: frames))
  unfold Record.nextElement at found
  unfold skipElementsIn
  split at found
  · cases found
  · cases found
  · rename_i char after proceeds stripped
    split at found
    · rename_i initial
      cases found
      rw [if_pos initial, ← stripped, skipValueIn_skipBlank]
      split
      · rename_i empty
        rw [stripped] at empty
        cases empty
      · rename_i closed
        exact (proceeds (List.cons.inj (stripped.symm.trans closed)).1).elim
      · rfl
    · rename_i later
      rw [if_neg later, skipRestIn_eq, restStep]
      split at found
      · rename_i separator
        split at found
        · cases found
        · cases found
        · cases found
          rw [stripped, separator, skipValueIn_skipBlank]
          rfl
      · cases found

theorem skipElementsIn_of_closed {text rest : List Char}
    (closed : Record.closeList text = .ok rest) (first : Bool) (frames : List Frame) :
    skipElementsIn first frames text = skipRestIn frames rest := by
  unfold Record.closeList at closed
  unfold skipElementsIn
  split at closed
  · cases closed
  · rename_i after stripped
    cases closed
    rw [skipRestIn_eq (.list :: frames), restStep, stripped]
    cases first <;> rfl
  · split at closed <;> cases closed
  · cases closed

theorem skipMembersIn_of_closed {first : Bool} {text rest : List Char}
    (found : nextMember first text = .ok (.closed rest)) (frames : List Frame) :
    skipMembersIn first frames text = skipRestIn frames rest := by
  unfold nextMember at found
  unfold skipMembersIn
  split at found
  · cases found
  · rename_i after stripped
    cases found
    rw [skipRestIn_eq (.object :: frames), restStep, stripped]
    cases first <;> rfl
  · split at found <;> cases found
  · split at found
    · cases found
    · split at found <;> cases found
  · cases found

theorem skipMembersIn_of_key {first : Bool} {text quoted key item rest : List Char}
    (found : nextMember first text = .ok (.key quoted))
    (passed : skipCharacters quoted = .ok key) (separated : colon key = .ok item)
    (passes : Passes item rest)
    (frames : List Frame) :
    skipMembersIn first frames text = skipMembersIn false frames rest := by
  refine Eq.trans ?_ (passes (.object :: frames))
  have whole (before : List Char) (stripped : skipBlank before = '"' :: quoted) :
      skipKey before = .ok item := by
    rw [skipKey, stripped]
    exact bind_eq_ok.mpr ⟨key, passed, separated⟩
  unfold nextMember at found
  unfold skipMembersIn
  split at found
  · cases found
  · cases found
  · rename_i after stripped
    split at found
    · rename_i initial
      cases found
      rw [if_pos initial, whole text stripped, stripped]
      rfl
    · cases found
  · rename_i after stripped
    split at found
    · cases found
    · rename_i later
      split at found
      · cases found
      · rename_i quotedKey separator
        cases found
        rw [if_neg later, skipRestIn_eq, restStep, stripped]
        simp only [whole after separator]
        rfl
      · cases found
      · cases found
  · cases found

end TelemetryRelay.Json
