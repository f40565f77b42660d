import TelemetryRelay.Proofs.WholeValues

/-!
The lexemes of JSON as the standard has them, apart from any reader: blanks, numbers and strings.
The readers take exactly these off a text, and only a number minds what follows it.
-/

namespace TelemetryRelay.Json

def Blank (text : List Char) : Prop := ∀ char ∈ text, isBlank char = true

def Around (mark : Char) (text : List Char) : Prop :=
  ∃ before after, Blank before ∧ Blank after ∧ text = before ++ mark :: after

structure Digits (run : List Char) : Prop where
  nonempty : run ≠ []
  digits : ∀ char ∈ run, char.isDigit = true

inductive WholePart : List Char → Prop
  | zero : WholePart ['0']
  | run {run : List Char} (digits : Digits run) (leading : run.head? ≠ some '0') : WholePart run

inductive Fraction : Option (List Char) → List Char → Prop
  | none : Fraction none []
  | some {run : List Char} (digits : Digits run) : Fraction (some run) ('.' :: run)

inductive Sign : Bool → List Char → Prop
  | none : Sign false []
  | plus : Sign false ['+']
  | minus : Sign true ['-']

inductive Exponent : Option Int → List Char → Prop
  | none : Exponent none []
  | some {letter : Char} {negative : Bool} {sign run : List Char}
      (marked : letter = 'e' ∨ letter = 'E') (signed : Sign negative sign) (digits : Digits run) :
      Exponent (some (if negative then -(digitsValue run : Int) else digitsValue run))
        (letter :: (sign ++ run))

inductive Numeral : List Char → Prop
  | signed {sign whole fraction exponent : List Char} {run : Option (List Char)}
      {power : Option Int} (signed : sign = [] ∨ sign = ['-']) (wholes : WholePart whole)
      (fractions : Fraction run fraction) (exponents : Exponent power exponent) :
      Numeral (sign ++ (whole ++ (fraction ++ exponent)))

/-- What may stand between quotes, be it the text of a string or not. -/
inductive Quoted : List Char → Prop
  | nothing : Quoted []
  | plain {char : Char} {body : List Char} (quote : char ≠ '"') (escape : char ≠ '\\')
      (visible : 0x20 ≤ char.toNat) (more : Quoted body) : Quoted (char :: body)
  | escape {letter : Char} {body : List Char} (named : (escaped? letter).isSome)
      (more : Quoted body) : Quoted ('\\' :: letter :: body)
  | unit {first second third fourth : Char} {body : List Char}
      (hex : (codeUnit? first second third fourth).isSome) (more : Quoted body) :
      Quoted ('\\' :: 'u' :: first :: second :: third :: fourth :: body)

/-- How the characters of a string may be written between quotes. -/
inductive Writes : List Char → List Char → Prop
  | nothing : Writes [] []
  | plain {char : Char} {body chars : List Char} (quote : char ≠ '"') (escape : char ≠ '\\')
      (visible : 0x20 ≤ char.toNat) (more : Writes body chars) :
      Writes (char :: body) (char :: chars)
  | escape {letter char : Char} {body chars : List Char} (named : escaped? letter = some char)
      (more : Writes body chars) : Writes ('\\' :: letter :: body) (char :: chars)
  | unit {first second third fourth : Char} {unit : Nat} {body chars : List Char}
      (hex : codeUnit? first second third fourth = some unit)
      (noLead : isLeadSurrogate unit = false) (noTrail : isTrailSurrogate unit = false)
      (more : Writes body chars) :
      Writes ('\\' :: 'u' :: first :: second :: third :: fourth :: body) (Char.ofNat unit :: chars)
  | pair {first second third fourth fifth sixth seventh eighth : Char} {lead trail : Nat}
      {body chars : List Char} (hexLead : codeUnit? first second third fourth = some lead)
      (isLead : isLeadSurrogate lead = true)
      (hexTrail : codeUnit? fifth sixth seventh eighth = some trail)
      (isTrail : isTrailSurrogate trail = true) (more : Writes body chars) :
      Writes ('\\' :: 'u' :: first :: second :: third :: fourth ::
        '\\' :: 'u' :: fifth :: sixth :: seventh :: eighth :: body)
        (surrogatePair lead trail :: chars)

def Stops (holds : Char → Bool) (text : List Char) : Prop :=
  ∀ char ∈ text.head?, holds char = false

theorem Stops.append {holds : Char → Bool} {text rest : List Char} (stops : Stops holds text)
    (restStops : Stops holds rest) : Stops holds (text ++ rest) := by
  cases text with
  | nil => exact restStops
  | cons char text => exact stops

theorem Stops.mono {holds other : Char → Bool} {text : List Char} (stops : Stops holds text)
    (weaker : ∀ char, other char = true → holds char = true) : Stops other text := by
  intro char first
  have unheld := stops char first
  cases otherHeld : other char with
  | false => rfl
  | true => exact (Bool.false_ne_true (unheld.symm.trans (weaker char otherHeld))).elim

def continuesNumber (char : Char) : Bool :=
  char.isDigit || char == '.' || char == 'e' || char == 'E'

def Delimits (text : List Char) : Prop := Stops continuesNumber text

theorem delimits_nil : Delimits [] := by
  intro char first
  cases first

theorem blank_nil : Blank [] := List.forall_mem_nil _

theorem Blank.delimits {blanks rest : List Char} (blank : Blank blanks) (delimits : Delimits rest) :
    Delimits (blanks ++ rest) := by
  refine Stops.append (fun char first => ?_) delimits
  have white := blank char (List.mem_of_mem_head? first)
  simp only [isBlank, Bool.or_eq_true, beq_iff_eq] at white
  rcases white with ((rfl | rfl) | rfl) | rfl <;> rfl

theorem Around.delimits {mark : Char} {text : List Char} (around : Around mark text)
    (ends : continuesNumber mark = false) (rest : List Char) : Delimits (text ++ rest) := by
  obtain ⟨before, after, blank, -, rfl⟩ := around
  rw [List.append_assoc]
  refine blank.delimits fun char first => ?_
  cases first
  exact ends

theorem Blank.skipBlank_append {blanks : List Char} (blank : Blank blanks) (text : List Char) :
    skipBlank (blanks ++ text) = skipBlank text := by
  have none : blanks.dropWhile isBlank = [] := List.dropWhile_eq_nil_iff.mpr blank
  rw [skipBlank, List.dropWhile_append, none]
  rfl

theorem skipBlank_cons {char : Char} (full : isBlank char = false) (text : List Char) :
    skipBlank (char :: text) = char :: text := by
  rw [skipBlank, List.dropWhile_cons, full]
  rfl

theorem skipBlank_append_cons {blanks : List Char} (blank : Blank blanks) {char : Char}
    (full : isBlank char = false) (text : List Char) :
    skipBlank (blanks ++ char :: text) = char :: text := by
  rw [blank.skipBlank_append, skipBlank_cons full]

theorem skipBlank_eq_cons_iff {text rest : List Char} {char : Char} :
    skipBlank text = char :: rest ↔
      ∃ blanks, Blank blanks ∧ isBlank char = false ∧ text = blanks ++ char :: rest := by
  constructor
  · intro stripped
    have full := List.head?_dropWhile_not isBlank text
    unfold skipBlank at stripped
    rw [stripped] at full
    refine ⟨text.takeWhile isBlank, fun char member => List.mem_takeWhile_imp member, full, ?_⟩
    rw [← stripped, List.takeWhile_append_dropWhile]
  · rintro ⟨blanks, blank, full, rfl⟩
    exact skipBlank_append_cons blank full rest

theorem finish_eq_ok_iff {text : List Char} : finish text = .ok () ↔ Blank text := by
  have nothing : skipBlank text = [] ↔ Blank text := List.dropWhile_eq_nil_iff
  rw [← nothing, finish]
  cases skipBlank text <;> simp

theorem isBlank_of_numeral {char : Char} (numeral : char = '-' ∨ char.isDigit = true) :
    isBlank char = false := by
  by_contra white
  simp only [isBlank, Bool.not_eq_false, Bool.or_eq_true, beq_iff_eq] at white
  rcases white with ((rfl | rfl) | rfl) | rfl <;> simp at numeral

theorem digits_eq_ok_iff {text run rest : List Char} :
    digits text = .ok (run, rest) ↔ Digits run ∧ text = run ++ rest ∧ Stops Char.isDigit rest := by
  rw [digits, List.span_eq_takeWhile_dropWhile]
  constructor
  · intro accepted
    split at accepted
    · cases accepted
    · rename_i nonempty same
      cases accepted
      obtain ⟨rfl, rfl⟩ := Prod.mk.inj same
      refine ⟨⟨nonempty, fun char member => List.mem_takeWhile_imp member⟩,
        List.takeWhile_append_dropWhile.symm, ?_⟩
      intro char first
      have ends := List.head?_dropWhile_not Char.isDigit text
      rw [Option.mem_def.mp first] at ends
      exact ends
  · rintro ⟨digits, rfl, stops⟩
    have after : rest.takeWhile Char.isDigit = [] ∧ rest.dropWhile Char.isDigit = rest := by
      cases rest with
      | nil => exact ⟨rfl, rfl⟩
      | cons char rest =>
          have other : char.isDigit = false := stops char rfl
          simp [other]
    rw [List.takeWhile_append_of_pos digits.digits, List.dropWhile_append_of_pos digits.digits,
      after.1, after.2, List.append_nil]
    split
    · rename_i none
      exact (digits.nonempty (Prod.mk.inj none).1).elim
    · rename_i same
      cases same
      rfl

theorem Digits.head {run : List Char} (digits : Digits run) :
    ∃ char rest, run = char :: rest ∧ char.isDigit = true := by
  obtain ⟨char, rest, rfl⟩ := List.exists_cons_of_ne_nil digits.nonempty
  exact ⟨char, rest, rfl, digits.digits char List.mem_cons_self⟩

theorem WholePart.head {whole : List Char} (wholes : WholePart whole) :
    ∃ char rest, whole = char :: rest ∧ char.isDigit = true := by
  cases wholes with
  | zero => exact ⟨'0', [], rfl, rfl⟩
  | run digits leading => exact digits.head

theorem wholeDigits_eq_ok_iff {text run rest : List Char} :
    wholeDigits text = .ok (run, rest) ↔
      WholePart run ∧ text = run ++ rest ∧ Stops Char.isDigit rest := by
  rw [wholeDigits, bind_eq_ok]
  constructor
  · rintro ⟨⟨all, after⟩, read, single⟩
    obtain ⟨digits, rfl, stops⟩ := digits_eq_ok_iff.mp read
    simp only at single
    split at single
    · cases single
    · rename_i alone
      cases single
      refine ⟨?_, rfl, stops⟩
      obtain ⟨char, more, rfl, -⟩ := digits.head
      by_cases zero : char = '0'
      · subst zero
        cases more with
        | nil => exact .zero
        | cons next more => exact (alone _ _ rfl).elim
      · exact .run digits (by simpa using zero)
  · rintro ⟨wholes, rfl, stops⟩
    cases wholes with
    | zero =>
        exact ⟨_, digits_eq_ok_iff.mpr ⟨⟨by simp, by simp⟩, rfl, stops⟩, rfl⟩
    | run digits leading =>
        refine ⟨_, digits_eq_ok_iff.mpr ⟨digits, rfl, stops⟩, ?_⟩
        simp only
        split
        · exact (leading rfl).elim
        · rfl

def afterFraction : Option (List Char) → Char → Bool
  | none => (· == '.')
  | some _ => Char.isDigit

def afterExponent : Option Int → Char → Bool
  | none => fun char => char == 'e' || char == 'E'
  | some _ => Char.isDigit

theorem fraction?_eq_ok_iff {text rest : List Char} {run : Option (List Char)} :
    fraction? text = .ok (run, rest) ↔
      ∃ piece, Fraction run piece ∧ text = piece ++ rest ∧ Stops (afterFraction run) rest := by
  constructor
  · intro accepted
    unfold fraction? at accepted
    split at accepted
    · obtain ⟨some, read, rfl⟩ := map_eq_ok.mp accepted
      obtain ⟨digits, rfl, stops⟩ := digits_eq_ok_iff.mp read
      exact ⟨_, .some digits, rfl, stops⟩
    · rename_i other
      cases accepted
      refine ⟨[], .none, rfl, ?_⟩
      intro char first
      refine beq_false_of_ne ?_
      rintro rfl
      exact other _ (List.eq_cons_of_mem_head? first)
  · rintro ⟨piece, fraction, rfl, stops⟩
    cases fraction with
    | none =>
        rw [List.nil_append, fraction?]
        rintro more rfl
        cases stops '.' rfl
    | some digits =>
        exact map_eq_ok.mpr ⟨_, digits_eq_ok_iff.mpr ⟨digits, rfl, stops⟩, rfl⟩

theorem exponent?_eq_ok_iff {text rest : List Char} {power : Option Int} :
    exponent? text = .ok (power, rest) ↔
      ∃ piece, Exponent power piece ∧ text = piece ++ rest ∧ Stops (afterExponent power) rest := by
  constructor
  · intro accepted
    unfold exponent? at accepted
    split at accepted
    · rename_i letter more
      split at accepted
      · rename_i marked
        split at accepted
        rename_i negative unsigned sign
        obtain ⟨⟨run, after⟩, read, same⟩ := bind_eq_ok.mp accepted
        cases same
        obtain ⟨digits, rfl, stops⟩ := digits_eq_ok_iff.mp read
        split at sign <;> cases sign
        · exact ⟨_, .some marked .plus digits, rfl, stops⟩
        · exact ⟨_, .some marked .minus digits, rfl, stops⟩
        · exact ⟨_, .some marked .none digits, rfl, stops⟩
      · rename_i unmarked
        cases accepted
        refine ⟨[], .none, rfl, ?_⟩
        intro char first
        cases first
        simpa [afterExponent] using unmarked
    · cases accepted
      exact ⟨[], .none, rfl, fun char first => nomatch first⟩
  · rintro ⟨piece, exponent, rfl, stops⟩
    cases exponent with
    | none =>
        cases rest with
        | nil => rfl
        | cons letter more =>
            have ends := stops letter rfl
            refine if_neg ?_
            rintro (rfl | rfl) <;> cases ends
    | @some letter negative sign run marked signed digits =>
        have read := digits_eq_ok_iff.mpr ⟨digits, rfl, stops⟩
        simp only [List.cons_append, List.append_assoc, exponent?, if_pos marked]
        cases signed with
        | plus => exact bind_eq_ok.mpr ⟨_, read, rfl⟩
        | minus => exact bind_eq_ok.mpr ⟨_, read, rfl⟩
        | none =>
            obtain ⟨char, behind, rfl, digit⟩ := digits.head
            rw [List.nil_append]
            split
            · rename_i same
              obtain ⟨rfl, -⟩ := List.cons.inj same
              cases digit
            · rename_i same
              obtain ⟨rfl, -⟩ := List.cons.inj same
              cases digit
            · exact bind_eq_ok.mpr ⟨_, read, rfl⟩

theorem Fraction.stops {run : Option (List Char)} {fraction : List Char}
    (fractions : Fraction run fraction) : Stops Char.isDigit fraction := by
  cases fractions <;> rintro char ⟨⟩
  rfl

theorem Exponent.stops {power : Option Int} {exponent : List Char}
    (exponents : Exponent power exponent) (run : Option (List Char)) :
    Stops (afterFraction run) exponent := by
  cases exponents with
  | none => intro char first; cases first
  | some marked signed digits =>
      intro char first
      cases first
      rcases marked with rfl | rfl <;> cases run <;> rfl

theorem Numeral.head {text : List Char} (numeral : Numeral text) :
    ∃ char rest, text = char :: rest ∧ (char = '-' ∨ char.isDigit = true) := by
  obtain ⟨signed, wholes, -, -⟩ := numeral
  obtain ⟨char, rest, rfl, digit⟩ := wholes.head
  rcases signed with rfl | rfl
  · exact ⟨char, _, rfl, .inr digit⟩
  · exact ⟨'-', _, rfl, .inl rfl⟩

theorem continuesNumber_of_isDigit (char : Char) (digit : char.isDigit = true) :
    continuesNumber char = true := by
  simp [continuesNumber, digit]

theorem continuesNumber_of_afterFraction (run : Option (List Char)) (char : Char)
    (continues : afterFraction run char = true) : continuesNumber char = true := by
  cases run with
  | none => simp [continuesNumber, eq_of_beq continues]
  | some run => exact continuesNumber_of_isDigit char continues

theorem continuesNumber_of_afterExponent (power : Option Int) (char : Char)
    (continues : afterExponent power char = true) : continuesNumber char = true := by
  cases power with
  | none =>
      simp only [afterExponent, Bool.or_eq_true] at continues
      simp only [continuesNumber, Bool.or_eq_true]
      tauto
  | some power => exact continuesNumber_of_isDigit char continues

/-- Nothing at the start of `other` continues a number unless it does so at the start of `rest`. -/
def Fits (rest other : List Char) : Prop :=
  ∀ char ∈ other.head?, continuesNumber char = true → char ∈ rest.head?

theorem Fits.append {rest other : List Char} (fits : Fits rest other) (piece : List Char) :
    Fits (piece ++ rest) (piece ++ other) := by
  cases piece with
  | nil => exact fits
  | cons char piece => exact fun _ first _ => first

theorem fits_cons (char : Char) (rest other : List Char) : Fits (char :: rest) (char :: other) :=
  fun _ first _ => first

theorem Delimits.fits {other : List Char} (delimits : Delimits other) (rest : List Char) :
    Fits rest other := by
  intro char first continues
  exact (Bool.false_ne_true ((delimits char first).symm.trans continues)).elim

theorem Fits.stops {rest other : List Char} (fits : Fits rest other) {holds : Char → Bool}
    (continues : ∀ char, holds char = true → continuesNumber char = true)
    (stops : Stops holds rest) : Stops holds other := by
  intro char first
  cases held : holds char with
  | false => rfl
  | true => exact held.symm.trans (stops char (fits char first (continues char held)))

theorem digits_of_skipDigits {text rest : List Char} (skipped : skipDigits text = .ok rest) :
    ∃ run, digits text = .ok (run, rest) := by
  unfold skipDigits at skipped
  unfold digits
  split at skipped
  · cases skipped
  · rename_i run _ nonempty spanned
    cases skipped
    exact ⟨run, rfl⟩

theorem wholeDigits_of_skipWhole {text rest : List Char} (skipped : skipWhole text = .ok rest) :
    ∃ run, wholeDigits text = .ok (run, rest) := by
  unfold skipWhole at skipped
  split at skipped
  · split at skipped
    · cases skipped
    · rename_i digit more other
      cases skipped
      refine ⟨['0'], wholeDigits_eq_ok_iff.mpr ⟨.zero, rfl, fun char first => ?_⟩⟩
      cases first
      simpa using other
  · rename_i alone
    obtain ⟨run, read⟩ := digits_of_skipDigits skipped
    refine ⟨run, bind_eq_ok.mpr ⟨_, read, ?_⟩⟩
    obtain ⟨digits, rfl, -⟩ := digits_eq_ok_iff.mp read
    simp only
    split
    · exact (alone _ _ rfl).elim
    · rfl

theorem fraction?_of_skipFraction {text rest : List Char} (skipped : skipFraction text = .ok rest) :
    ∃ run, fraction? text = .ok (run, rest) := by
  unfold skipFraction at skipped
  unfold fraction?
  split at skipped
  · obtain ⟨run, read⟩ := digits_of_skipDigits skipped
    exact ⟨some run, map_eq_ok.mpr ⟨run, read, rfl⟩⟩
  · cases skipped
    exact ⟨none, rfl⟩

theorem exponent?_of_skipExponent {text rest : List Char} (skipped : skipExponent text = .ok rest) :
    ∃ power, exponent? text = .ok (power, rest) := by
  unfold skipExponent at skipped
  unfold exponent?
  split at skipped
  · split at skipped
    · rename_i marked
      simp only [if_pos marked]
      split at skipped
      all_goals
        obtain ⟨run, read⟩ := digits_of_skipDigits skipped
        exact ⟨_, bind_eq_ok.mpr ⟨_, read, rfl⟩⟩
    · rename_i unmarked
      cases skipped
      exact ⟨none, if_neg unmarked⟩
  · cases skipped
    exact ⟨none, rfl⟩

theorem magnitude_parts {text afterWhole afterFraction rest whole : List Char}
    {run : Option (List Char)} {power : Option Int}
    (readWhole : wholeDigits text = .ok (whole, afterWhole))
    (readFraction : fraction? afterWhole = .ok (run, afterFraction))
    (readExponent : exponent? afterFraction = .ok (power, rest)) :
    ∃ fraction exponent, WholePart whole ∧ Fraction run fraction ∧ Exponent power exponent ∧
      text = whole ++ (fraction ++ (exponent ++ rest)) ∧
      ∀ other, Fits rest other →
        wholeDigits (whole ++ (fraction ++ (exponent ++ other))) =
            .ok (whole, fraction ++ (exponent ++ other)) ∧
          fraction? (fraction ++ (exponent ++ other)) = .ok (run, exponent ++ other) ∧
          exponent? (exponent ++ other) = .ok (power, other) := by
  obtain ⟨wholes, rfl, wholeStops⟩ := wholeDigits_eq_ok_iff.mp readWhole
  obtain ⟨fraction, fractions, rfl, fractionStops⟩ := fraction?_eq_ok_iff.mp readFraction
  obtain ⟨exponent, exponents, rfl, exponentStops⟩ := exponent?_eq_ok_iff.mp readExponent
  refine ⟨fraction, exponent, wholes, fractions, exponents, rfl, fun other fits => ⟨?_, ?_, ?_⟩⟩
  · have stops :=
      ((fits.append exponent).append fraction).stops continuesNumber_of_isDigit wholeStops
    exact wholeDigits_eq_ok_iff.mpr ⟨wholes, rfl, stops⟩
  · have stops := (fits.append exponent).stops (continuesNumber_of_afterFraction run) fractionStops
    exact fraction?_eq_ok_iff.mpr ⟨fraction, fractions, rfl, stops⟩
  · have stops := fits.stops (continuesNumber_of_afterExponent power) exponentStops
    exact exponent?_eq_ok_iff.mpr ⟨exponent, exponents, rfl, stops⟩

def skipMagnitude (text : List Char) : Except Fault (List Char) := do
  let rest ← skipWhole text
  let rest ← skipFraction rest
  skipExponent rest

theorem ne_minus_of_isDigit {char : Char} (digit : char.isDigit = true) : char ≠ '-' := by
  rintro rfl
  cases digit

theorem skipNumber_whole {whole : List Char} (wholes : WholePart whole) (rest : List Char) :
    skipNumber (whole ++ rest) = skipMagnitude (whole ++ rest) := by
  obtain ⟨char, more, rfl, digit⟩ := wholes.head
  have unsigned := ne_minus_of_isDigit digit
  simp [skipNumber, skipMagnitude, unsigned]

theorem skipMagnitude_of_reads {text afterWhole afterFraction rest whole : List Char}
    {run : Option (List Char)} {power : Option Int}
    (readWhole : wholeDigits text = .ok (whole, afterWhole))
    (readFraction : fraction? afterWhole = .ok (run, afterFraction))
    (readExponent : exponent? afterFraction = .ok (power, rest)) :
    skipMagnitude text = .ok rest := by
  simp only [skipMagnitude, bind_eq_ok]
  exact ⟨afterWhole, skipWhole_of_wholeDigits readWhole, afterFraction,
    skipFraction_of_fraction? readFraction, skipExponent_of_exponent? readExponent⟩

theorem Numeral.skip {text rest : List Char} (numeral : Numeral text) (delimits : Delimits rest) :
    skipNumber (text ++ rest) = .ok rest := by
  obtain @⟨sign, whole, fraction, exponent, run, power, signed, wholes, fractions, exponents⟩ :=
    numeral
  have wholeStops : Stops Char.isDigit (fraction ++ (exponent ++ rest)) :=
    fractions.stops.append
      ((exponents.stops (some [])).append (delimits.mono continuesNumber_of_isDigit))
  have fractionStops : Stops (afterFraction run) (exponent ++ rest) :=
    (exponents.stops run).append (delimits.mono (continuesNumber_of_afterFraction run))
  have exponentStops : Stops (afterExponent power) rest :=
    delimits.mono (continuesNumber_of_afterExponent power)
  have magnitude : skipMagnitude (whole ++ (fraction ++ (exponent ++ rest))) = .ok rest :=
    skipMagnitude_of_reads (wholeDigits_eq_ok_iff.mpr ⟨wholes, rfl, wholeStops⟩)
      (fraction?_eq_ok_iff.mpr ⟨fraction, fractions, rfl, fractionStops⟩)
      (exponent?_eq_ok_iff.mpr ⟨exponent, exponents, rfl, exponentStops⟩)
  simp only [List.append_assoc]
  rcases signed with rfl | rfl
  · rw [List.nil_append, skipNumber_whole wholes, magnitude]
  · exact magnitude

theorem exists_parts_of_skipMagnitude {text rest : List Char}
    (skipped : skipMagnitude text = .ok rest) :
    ∃ whole fraction exponent run power, WholePart whole ∧ Fraction run fraction ∧
      Exponent power exponent ∧ text = whole ++ (fraction ++ (exponent ++ rest)) ∧
      ∀ other, Fits rest other →
        skipMagnitude (whole ++ (fraction ++ (exponent ++ other))) = .ok other := by
  simp only [skipMagnitude, bind_eq_ok] at skipped
  obtain ⟨afterWhole, skippedWhole, afterFraction, skippedFraction, skippedExponent⟩ := skipped
  obtain ⟨whole, readWhole⟩ := wholeDigits_of_skipWhole skippedWhole
  obtain ⟨run, readFraction⟩ := fraction?_of_skipFraction skippedFraction
  obtain ⟨power, readExponent⟩ := exponent?_of_skipExponent skippedExponent
  obtain ⟨fraction, exponent, wholes, fractions, exponents, same, again⟩ :=
    magnitude_parts readWhole readFraction readExponent
  refine ⟨whole, fraction, exponent, run, power, wholes, fractions, exponents, same, ?_⟩
  intro other fits
  obtain ⟨againWhole, againFraction, againExponent⟩ := again other fits
  exact skipMagnitude_of_reads againWhole againFraction againExponent

theorem exists_numeral_of_skipNumber {text rest : List Char}
    (skipped : skipNumber text = .ok rest) :
    ∃ piece, Numeral piece ∧ text = piece ++ rest ∧
      ∀ other, Fits rest other → skipNumber (piece ++ other) = .ok other := by
  unfold skipNumber at skipped
  split at skipped
  · obtain ⟨whole, fraction, exponent, run, power, wholes, fractions, exponents, rfl, again⟩ :=
      exists_parts_of_skipMagnitude skipped
    refine ⟨_, .signed (.inr rfl) wholes fractions exponents, by simp, fun other fits => ?_⟩
    simp only [List.append_assoc]
    exact again other fits
  · obtain ⟨whole, fraction, exponent, run, power, wholes, fractions, exponents, rfl, again⟩ :=
      exists_parts_of_skipMagnitude skipped
    refine ⟨_, .signed (.inl rfl) wholes fractions exponents, by simp, fun other fits => ?_⟩
    simp only [List.append_assoc, List.nil_append]
    rw [skipNumber_whole wholes, again other fits]

theorem Writes.quoted {body chars : List Char} (writes : Writes body chars) : Quoted body := by
  induction writes with
  | nothing => exact .nothing
  | plain quote escape visible more ih => exact .plain quote escape visible ih
  | escape named more ih => exact .escape (Option.isSome_of_mem named) ih
  | unit hex noLead noTrail more ih => exact .unit (Option.isSome_of_mem hex) ih
  | pair hexLead isLead hexTrail isTrail more ih =>
      exact .unit (Option.isSome_of_mem hexLead) (.unit (Option.isSome_of_mem hexTrail) ih)

theorem isTrailSurrogate_of_lead {unit : Nat} (lead : isLeadSurrogate unit = true) :
    isTrailSurrogate unit = false := by
  simp only [isLeadSurrogate, Bool.and_eq_true, decide_eq_true_eq] at lead
  simp only [isTrailSurrogate, Bool.and_eq_false_iff, decide_eq_false_iff_not]
  omega

theorem ne_backslash {char : Char} {text : List Char} (single : char = '\\' → text = [] → False)
    (escape : ∀ letter rest, char = '\\' → text = letter :: rest → False) : char ≠ '\\' := by
  rintro rfl
  cases text with
  | nil => exact single rfl rfl
  | cons letter rest => exact escape letter rest rfl rfl

theorem characters_eq_ok_iff {text chars rest : List Char} :
    characters text = .ok (chars, rest) ↔
      ∃ body, Writes body chars ∧ text = body ++ '"' :: rest := by
  constructor
  · intro accepted
    fun_induction characters text generalizing chars
    case case5 =>
      rename_i lead hexLead noTrail isLead _ _ _ _ after trail hexTrail isTrail ih
      obtain ⟨inner, read, rfl⟩ := map_eq_ok.mp accepted
      obtain ⟨body, writes, rfl⟩ := ih read
      exact ⟨_, .pair hexLead isLead hexTrail isTrail writes, rfl⟩
    case case11 =>
      rename_i unit hex noTrail noLead ih
      obtain ⟨inner, read, rfl⟩ := map_eq_ok.mp accepted
      obtain ⟨body, writes, rfl⟩ := ih read
      exact ⟨_, .unit hex (by simpa using noLead) (by simpa using noTrail) writes, rfl⟩
    case case15 =>
      rename_i named ih
      obtain ⟨inner, read, rfl⟩ := map_eq_ok.mp accepted
      obtain ⟨body, writes, rfl⟩ := ih read
      exact ⟨_, .escape named writes, rfl⟩
    case case16 =>
      cases accepted
      exact ⟨[], .nothing, rfl⟩
    case case18 =>
      rename_i single escape quote visible ih
      obtain ⟨inner, read, rfl⟩ := map_eq_ok.mp accepted
      obtain ⟨body, writes, rfl⟩ := ih read
      exact ⟨_, .plain quote (ne_backslash single escape) (Nat.not_lt.mp visible) writes, rfl⟩
    all_goals cases accepted
  · rintro ⟨body, writes, rfl⟩
    induction writes with
    | nothing => rfl
    | plain quote escape visible more ih =>
        simp [characters, quote, escape, Nat.not_lt.mpr visible, ih, bind,
          Except.bind, pure, Except.pure]
    | @escape letter _ _ _ named more ih =>
        have other : letter ≠ 'u' := by
          rintro rfl
          cases named
        simp [characters, other, named, ih, bind,
          Except.bind, pure, Except.pure]
    | unit hex noLead noTrail more ih =>
        simp [characters, hex, noLead, noTrail, ih, bind,
          Except.bind, pure, Except.pure]
    | pair hexLead isLead hexTrail isTrail more ih =>
        simp [characters, hexLead, isLead, hexTrail, isTrail, isTrailSurrogate_of_lead isLead,
          ih, bind, Except.bind, pure, Except.pure]

theorem skipCharacters_eq_ok_iff {text rest : List Char} :
    skipCharacters text = .ok rest ↔ ∃ body, Quoted body ∧ text = body ++ '"' :: rest := by
  constructor
  · intro skipped
    fun_induction skipCharacters text
    case case2 =>
      rename_i hex ih
      obtain ⟨body, quoted, rfl⟩ := ih skipped
      exact ⟨_, .unit hex quoted, rfl⟩
    case case6 =>
      rename_i named ih
      obtain ⟨body, quoted, rfl⟩ := ih skipped
      exact ⟨_, .escape named quoted, rfl⟩
    case case8 =>
      cases skipped
      exact ⟨[], .nothing, rfl⟩
    case case10 =>
      rename_i single escape quote visible ih
      obtain ⟨body, quoted, rfl⟩ := ih skipped
      exact ⟨_, .plain quote (ne_backslash single escape) (Nat.not_lt.mp visible) quoted, rfl⟩
    all_goals cases skipped
  · rintro ⟨body, quoted, rfl⟩
    induction quoted with
    | nothing => rfl
    | plain quote escape visible more ih =>
        simp [skipCharacters, quote, escape, Nat.not_lt.mpr visible, ih]
    | @escape letter body named more ih =>
        have other : letter ≠ 'u' := by
          rintro rfl
          cases named
        simp [skipCharacters, other, named, ih]
    | unit hex more ih => simp [skipCharacters, hex, ih]

end TelemetryRelay.Json
