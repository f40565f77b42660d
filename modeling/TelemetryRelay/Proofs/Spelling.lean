import TelemetryRelay.Proofs.Lexemes
import TelemetryRelay.Settings

/-!
How the values of settings are spelled in variables. A text is its own spelling; a flag is one of
two words and a number a decimal numeral, with or without white space around it. What a variable
means is what it spells, and nothing else is accepted.
-/

namespace TelemetryRelay

namespace Text

def Padded (core text : List Char) : Prop :=
  ∃ before after, (∀ char ∈ before, isBlank char = true) ∧ (∀ char ∈ after, isBlank char = true) ∧
    text = before ++ (core ++ after)

theorem padded_trim (text : List Char) : Padded (trim text) text := by
  have front := List.takeWhile_append_dropWhile (p := isBlank) (l := text)
  have back := List.takeWhile_append_dropWhile (p := isBlank)
    (l := (text.dropWhile isBlank).reverse)
  refine ⟨text.takeWhile isBlank, ((text.dropWhile isBlank).reverse.takeWhile isBlank).reverse,
    fun char member => List.mem_takeWhile_imp member,
    fun char member => List.mem_takeWhile_imp (List.mem_reverse.mp member), ?_⟩
  rw [trim, ← List.reverse_append, back, List.reverse_reverse, front]

theorem dropWhile_of_full {text : List Char} (full : ∀ char ∈ text.head?, isBlank char = false) :
    text.dropWhile isBlank = text := by
  cases text with
  | nil => rfl
  | cons char text => rw [List.dropWhile_cons_of_neg (by simp [full char rfl])]

theorem trim_eq_iff {core text : List Char} (full : ∀ char ∈ core, isBlank char = false) :
    trim text = core ↔ Padded core text := by
  constructor
  · rintro rfl
    exact padded_trim text
  · rintro ⟨before, after, blankBefore, blankAfter, rfl⟩
    have blankBehind : ∀ char ∈ after.reverse, isBlank char = true := fun char member =>
      blankAfter char (List.mem_reverse.mp member)
    have fullBehind : core.reverse.dropWhile isBlank = core.reverse := by
      refine dropWhile_of_full fun char last => full char ?_
      exact List.mem_reverse.mp (List.mem_of_mem_head? last)
    have front : (core ++ after).dropWhile isBlank = core ++ after ∨ core = [] := by
      cases core with
      | nil => exact .inr rfl
      | cons first core =>
          refine .inl (dropWhile_of_full fun char head => full char ?_)
          cases head
          exact List.mem_cons_self
    rw [trim, List.dropWhile_append_of_pos blankBefore]
    rcases front with whole | rfl
    · rw [whole, List.reverse_append, List.dropWhile_append_of_pos blankBehind, fullBehind,
        List.reverse_reverse]
    · rw [List.nil_append, List.dropWhile_eq_nil_iff.mpr blankAfter]
      rfl

end Text

inductive SettingKind
  | text
  | flag
  | count
  | port
deriving DecidableEq, Repr

namespace SettingKind

abbrev Value : SettingKind → Type
  | .text => String
  | .flag => Bool
  | .count => UInt64
  | .port => UInt16

instance : (kind : SettingKind) → DecidableEq kind.Value
  | .text => inferInstanceAs (DecidableEq String)
  | .flag => inferInstanceAs (DecidableEq Bool)
  | .count => inferInstanceAs (DecidableEq UInt64)
  | .port => inferInstanceAs (DecidableEq UInt16)

def Numeral (number : Nat) (digits : List Char) : Prop :=
  ∃ sign run, (sign = [] ∨ sign = ['+']) ∧ Json.Digits run ∧ Nat.ofDigitChars 10 run 0 = number ∧
    digits = sign ++ run

/-- A text of a variable that means the value. -/
def Spells : (kind : SettingKind) → kind.Value → String → Prop
  | .text, value, spelling => spelling = value
  | .flag, value, spelling =>
    Text.Padded (if value then "true" else "false").toList spelling.toList
  | .count, value, spelling =>
    ∃ digits, Numeral value.toNat digits ∧ Text.Padded digits spelling.toList
  | .port, value, spelling =>
    ∃ digits, Numeral value.toNat digits ∧ Text.Padded digits spelling.toList

def Accepts (kind : SettingKind) (spelling : String) : Prop :=
  ∃ value, kind.Spells value spelling

def read? : (kind : SettingKind) → String → Option kind.Value
  | .text, spelling => some spelling
  | .flag, spelling => Settings.flag? (Text.trim spelling.toList)
  | .count, spelling => (Settings.natural? (2 ^ 64) (Text.trim spelling.toList)).map UInt64.ofNat
  | .port, spelling => (Settings.natural? (2 ^ 16) (Text.trim spelling.toList)).map UInt16.ofNat

theorem digitsValue_eq (run : List Char) : Json.digitsValue run = Nat.ofDigitChars 10 run 0 := by
  have step : (fun (value : Nat) (digit : Char) => value * 10 + (digit.toNat - 0x30)) =
      fun value digit => 10 * value + (digit.toNat - '0'.toNat) := by
    funext value digit
    rw [Nat.mul_comm]
    rfl
  rw [Json.digitsValue, step, Nat.ofDigitChars]

theorem isBlank_of_isDigit {char : Char} (digit : char.isDigit = true) :
    Text.isBlank char = false := by
  simp only [Char.isDigit, Bool.and_eq_true, decide_eq_true_eq, ge_iff_le,
    UInt32.le_iff_toNat_le] at digit
  have bounds : 48 ≤ char.toNat ∧ char.toNat ≤ 57 := digit
  simp only [Text.isBlank]
  generalize char.toNat = code at bounds
  simp
  omega

theorem Numeral.full {number : Nat} {digits : List Char} (numeral : Numeral number digits) :
    ∀ char ∈ digits, Text.isBlank char = false := by
  obtain ⟨sign, run, signed, run, -, rfl⟩ := numeral
  intro char member
  rcases List.mem_append.mp member with inSign | inRun
  · rcases signed with rfl | rfl
    · cases inSign
    · obtain rfl := List.mem_singleton.mp inSign
      rfl
  · exact isBlank_of_isDigit (run.digits char inRun)

theorem flag?_eq_some_iff {word : List Char} {value : Bool} :
    Settings.flag? word = some value ↔ word = (if value then "true" else "false").toList := by
  unfold Settings.flag?
  split
  · rename_i same
    subst same
    cases value <;> simp
  · split
    · rename_i same
      subst same
      cases value <;> simp
    · cases value <;> simp_all

def unsigned : List Char → List Char
  | '+' :: rest => rest
  | digits => digits

theorem exists_sign (digits : List Char) :
    ∃ sign, (sign = [] ∨ sign = ['+']) ∧ digits = sign ++ unsigned digits := by
  unfold unsigned
  split
  · exact ⟨['+'], .inr rfl, rfl⟩
  · exact ⟨[], .inl rfl, rfl⟩

theorem natural?_eq (bound : Nat) (digits : List Char) :
    Settings.natural? bound digits =
      if (unsigned digits).isEmpty ∨ !(unsigned digits).all Char.isDigit then none
      else if Nat.ofDigitChars 10 (unsigned digits) 0 < bound then
        some (Nat.ofDigitChars 10 (unsigned digits) 0)
      else none := by
  cases digits with
  | nil => rfl
  | cons char rest =>
      by_cases sign : char = '+'
      · subst sign
        rw [← digitsValue_eq]
        rfl
      · simp [Settings.natural?, unsigned, sign, digitsValue_eq]

theorem numeral_iff {number : Nat} {digits : List Char} :
    Numeral number digits ↔
      Json.Digits (unsigned digits) ∧ Nat.ofDigitChars 10 (unsigned digits) 0 = number := by
  constructor
  · rintro ⟨sign, run, rfl | rfl, proper, same, rfl⟩
    · -- A run of digits does not begin with a sign.
      obtain ⟨char, rest, rfl, digit⟩ := proper.head
      have noSign : char ≠ '+' := by
        rintro rfl
        cases digit
      simpa [unsigned, noSign] using ⟨proper, same⟩
    · exact ⟨proper, same⟩
  · rintro ⟨proper, same⟩
    obtain ⟨sign, signed, split⟩ := exists_sign digits
    exact ⟨sign, _, signed, proper, same, split⟩

theorem natural?_eq_some_iff {bound number : Nat} {digits : List Char} :
    Settings.natural? bound digits = some number ↔ Numeral number digits ∧ number < bound := by
  rw [natural?_eq, numeral_iff]
  constructor
  · intro read
    split at read
    · cases read
    · rename_i proper
      split at read
      · rename_i small
        cases read
        simp only [List.isEmpty_iff, Bool.not_eq_true', not_or, Bool.not_eq_false,
          List.all_eq_true] at proper
        exact ⟨⟨⟨proper.1, proper.2⟩, rfl⟩, small⟩
      · cases read
  · rintro ⟨⟨proper, rfl⟩, small⟩
    rw [if_neg (by simpa [proper.nonempty] using proper.digits), if_pos small]

theorem exists_numeral_iff {Value : Type} {bound : Nat} {convert : Nat → Value}
    {number : Value → Nat} (converts : ∀ value, convert (number value) = value)
    (small : ∀ value, number value < bound)
    (exact : ∀ count < bound, number (convert count) = count) {value : Value} {text : List Char} :
    (Settings.natural? bound (Text.trim text)).map convert = some value ↔
      ∃ digits, Numeral (number value) digits ∧ Text.Padded digits text := by
  constructor
  · intro read
    obtain ⟨count, counted, rfl⟩ := Option.map_eq_some_iff.mp read
    obtain ⟨numeral, below⟩ := natural?_eq_some_iff.mp counted
    refine ⟨Text.trim text, ?_, Text.padded_trim text⟩
    rwa [exact count below]
  · rintro ⟨digits, numeral, padded⟩
    rw [(Text.trim_eq_iff numeral.full).mpr padded,
      natural?_eq_some_iff.mpr ⟨numeral, small value⟩, Option.map_some, converts]

theorem read?_eq_some_iff {kind : SettingKind} {value : kind.Value} {spelling : String} :
    kind.read? spelling = some value ↔ kind.Spells value spelling := by
  cases kind with
  | text => exact Option.some_inj
  | flag =>
      have full : ∀ char ∈ (if value then "true" else "false").toList,
          Text.isBlank char = false := by
        have none : (if value then "true" else "false").toList.any Text.isBlank = false := by
          cases value <;> rfl
        simpa using none
      exact flag?_eq_some_iff.trans (Text.trim_eq_iff full)
  | count =>
      exact exists_numeral_iff (fun value => UInt64.ofNat_toNat) UInt64.toNat_lt
        fun count below => UInt64.toNat_ofNat_of_lt' below
  | port =>
      exact exists_numeral_iff (fun value => UInt16.ofNat_toNat) UInt16.toNat_lt
        fun count below => UInt16.toNat_ofNat_of_lt' below

theorem accepts_iff {kind : SettingKind} {spelling : String} :
    kind.Accepts spelling ↔ (kind.read? spelling).isSome := by
  simp only [Accepts, ← read?_eq_some_iff, Option.isSome_iff_exists]

instance (kind : SettingKind) (spelling : String) : Decidable (kind.Accepts spelling) :=
  decidable_of_iff _ accepts_iff.symm

end SettingKind

end TelemetryRelay
