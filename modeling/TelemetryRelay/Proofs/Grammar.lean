import TelemetryRelay.Proofs.Lexemes

/-!
The grammar of JSON as the standard has it, apart from any reader. Values of any depth are passed
over exactly if they are derived, up to where the derivation ends.
-/

namespace TelemetryRelay.Json

def Separator (first : Bool) (text : List Char) : Prop :=
  if first then Blank text else Around ',' text

inductive Symbol
  | value
  | elements (first : Bool)
  | members (first : Bool)

/-- The texts of a symbol, without blanks around a value and with those inside of brackets. -/
inductive Derives : Symbol → List Char → Prop
  | nullWord : Derives .value ['n', 'u', 'l', 'l']
  | trueWord : Derives .value ['t', 'r', 'u', 'e']
  | falseWord : Derives .value ['f', 'a', 'l', 's', 'e']
  | number {text : List Char} (numeral : Numeral text) : Derives .value text
  | string {body : List Char} (quoted : Quoted body) : Derives .value ('"' :: (body ++ ['"']))
  | list {inner : List Char} (elements : Derives (.elements true) inner) :
      Derives .value ('[' :: (inner ++ [']']))
  | object {inner : List Char} (members : Derives (.members true) inner) :
      Derives .value ('\x7b' :: (inner ++ ['\x7d']))
  | noElement {first : Bool} {blanks : List Char} (blank : Blank blanks) :
      Derives (.elements first) blanks
  | element {first : Bool} {lead item more : List Char} (separator : Separator first lead)
      (value : Derives .value item) (rest : Derives (.elements false) more) :
      Derives (.elements first) (lead ++ (item ++ more))
  | noMember {first : Bool} {blanks : List Char} (blank : Blank blanks) :
      Derives (.members first) blanks
  | member {first : Bool} {lead key between item more : List Char}
      (separator : Separator first lead) (quoted : Quoted key) (colon : Around ':' between)
      (value : Derives .value item) (rest : Derives (.members false) more) :
      Derives (.members first) (lead ++ '"' :: (key ++ '"' :: (between ++ (item ++ more))))

theorem nextElement_of_separator {first : Bool} {lead : List Char}
    (separator : Separator first lead) {char : Char} (full : isBlank char = false)
    (opens : char ≠ ']') (text : List Char) :
    Record.nextElement first (lead ++ char :: text) = .ok (some (char :: text)) := by
  unfold Record.nextElement
  cases first with
  | true =>
      have blank : Blank lead := separator
      simp [skipBlank_append_cons blank full]
  | false =>
      obtain ⟨before, after, blank, blankAfter, rfl⟩ := separator
      have comma : isBlank ',' = false := rfl
      simp [skipBlank_append_cons blank comma, skipBlank_append_cons blankAfter full, opens]

theorem nextElement_eq_some {first : Bool} {text item : List Char}
    (found : Record.nextElement first text = .ok (some item)) :
    ∃ lead char rest, Separator first lead ∧ isBlank char = false ∧ char ≠ ']' ∧
      item = char :: rest ∧ text = lead ++ char :: rest := by
  unfold Record.nextElement at found
  split at found
  · cases found
  · cases found
  · rename_i char rest opens stripped
    obtain ⟨blanks, blank, full, rfl⟩ := skipBlank_eq_cons_iff.mp stripped
    split at found
    · rename_i initial
      cases found
      exact ⟨blanks, char, rest, by rwa [initial], full, fun same => opens same, rfl, rfl⟩
    · rename_i later
      obtain rfl : first = false := by simpa using later
      split at found
      · rename_i comma
        subst comma
        split at found
        · cases found
        · cases found
        · rename_i nonempty opens
          cases found
          cases next : skipBlank rest with
          | nil => exact (nonempty next).elim
          | cons char more =>
              obtain ⟨after, blankAfter, full, rfl⟩ := skipBlank_eq_cons_iff.mp next
              refine ⟨blanks ++ ',' :: after, char, more,
                ⟨blanks, after, blank, blankAfter, rfl⟩, full, ?_, rfl, by simp⟩
              rintro rfl
              exact opens more next
      · cases found

theorem nextElement_eq_none {first : Bool} {text : List Char}
    (found : Record.nextElement first text = .ok none) :
    ∃ blanks rest, Blank blanks ∧ text = blanks ++ ']' :: rest := by
  unfold Record.nextElement at found
  split at found
  · cases found
  · rename_i stripped
    obtain ⟨blanks, blank, -, rfl⟩ := skipBlank_eq_cons_iff.mp stripped
    exact ⟨blanks, _, blank, rfl⟩
  · split at found
    · cases found
    · split at found
      · split at found <;> cases found
      · cases found

theorem nextElement_of_closed {blanks : List Char} (blank : Blank blanks) (first : Bool)
    (rest : List Char) : Record.nextElement first (blanks ++ ']' :: rest) = .ok none := by
  rw [Record.nextElement, skipBlank_append_cons blank rfl]
  rfl

theorem closeList_eq_ok {text rest : List Char} (closed : Record.closeList text = .ok rest) :
    ∃ blanks, Blank blanks ∧ text = blanks ++ ']' :: rest := by
  unfold Record.closeList at closed
  split at closed
  · cases closed
  · rename_i stripped
    cases closed
    obtain ⟨blanks, blank, -, rfl⟩ := skipBlank_eq_cons_iff.mp stripped
    exact ⟨blanks, blank, rfl⟩
  · split at closed <;> cases closed
  · cases closed

theorem closeList_of_blank {blanks : List Char} (blank : Blank blanks) (rest : List Char) :
    Record.closeList (blanks ++ ']' :: rest) = .ok rest := by
  rw [Record.closeList, skipBlank_append_cons blank rfl]
  rfl

theorem nextMember_of_separator {first : Bool} {lead : List Char}
    (separator : Separator first lead) (text : List Char) :
    nextMember first (lead ++ '"' :: text) = .ok (.key text) := by
  have quote : isBlank '"' = false := rfl
  unfold nextMember
  cases first with
  | true =>
      have blank : Blank lead := separator
      rw [skipBlank_append_cons blank quote]
      rfl
  | false =>
      obtain ⟨before, after, blank, blankAfter, rfl⟩ := separator
      have comma : isBlank ',' = false := rfl
      simp [skipBlank_append_cons blank comma, skipBlank_append_cons blankAfter quote]

theorem nextMember_of_blank {blanks : List Char} (blank : Blank blanks) (first : Bool)
    (rest : List Char) : nextMember first (blanks ++ '\x7d' :: rest) = .ok (.closed rest) := by
  rw [nextMember, skipBlank_append_cons blank rfl]
  rfl

theorem nextMember_eq_key {first : Bool} {text rest : List Char}
    (found : nextMember first text = .ok (.key rest)) :
    ∃ lead, Separator first lead ∧ text = lead ++ '"' :: rest := by
  unfold nextMember at found
  split at found
  · cases found
  · cases found
  · rename_i stripped
    obtain ⟨blanks, blank, -, rfl⟩ := skipBlank_eq_cons_iff.mp stripped
    split at found
    · rename_i initial
      cases found
      exact ⟨blanks, by rwa [initial], rfl⟩
    · cases found
  · rename_i stripped
    obtain ⟨blanks, blank, -, rfl⟩ := skipBlank_eq_cons_iff.mp stripped
    split at found
    · cases found
    · rename_i later
      split at found
      · cases found
      · rename_i quote
        cases found
        obtain ⟨after, blankAfter, -, rfl⟩ := skipBlank_eq_cons_iff.mp quote
        obtain rfl : first = false := by simpa using later
        exact ⟨blanks ++ ',' :: after, ⟨blanks, after, blank, blankAfter, rfl⟩, by simp⟩
      · cases found
      · cases found
  · cases found

theorem nextMember_eq_closed {first : Bool} {text rest : List Char}
    (found : nextMember first text = .ok (.closed rest)) :
    ∃ blanks, Blank blanks ∧ text = blanks ++ '\x7d' :: rest := by
  unfold nextMember at found
  split at found
  · cases found
  · rename_i stripped
    cases found
    obtain ⟨blanks, blank, -, rfl⟩ := skipBlank_eq_cons_iff.mp stripped
    exact ⟨blanks, blank, rfl⟩
  · split at found <;> cases found
  · split at found
    · cases found
    · split at found <;> cases found
  · cases found

theorem colon_of_blank {blanks : List Char} (blank : Blank blanks) (rest : List Char) :
    colon (blanks ++ ':' :: rest) = .ok rest := by
  rw [colon, skipBlank_append_cons blank rfl]
  rfl

theorem Around.colon {between : List Char} (around : Around ':' between) :
    ∃ blanks, Blank blanks ∧ ∀ text, colon (between ++ text) = .ok (blanks ++ text) := by
  obtain ⟨before, after, blank, blankAfter, rfl⟩ := around
  refine ⟨after, blankAfter, fun text => ?_⟩
  rw [List.append_assoc]
  exact colon_of_blank blank _

theorem Separator.delimits {lead : List Char} (separator : Separator false lead)
    (rest : List Char) : Delimits (lead ++ rest) :=
  Around.delimits separator rfl rest

theorem Derives.delimits {symbol : Symbol} {text : List Char} (derives : Derives symbol text)
    (later : symbol = .elements false ∨ symbol = .members false) {close : Char}
    (ends : continuesNumber close = false) (rest : List Char) :
    Delimits (text ++ close :: rest) := by
  have closing : Delimits (close :: rest) := by
    intro char first
    cases first
    exact ends
  cases derives with
  | noElement blank => exact blank.delimits closing
  | noMember blank => exact blank.delimits closing
  | element separator value more =>
      rcases later with ⟨⟨⟩⟩ | ⟨⟨⟩⟩
      rw [List.append_assoc]
      exact separator.delimits _
  | member separator quoted colon value more =>
      rcases later with ⟨⟨⟩⟩ | ⟨⟨⟩⟩
      rw [List.append_assoc]
      exact separator.delimits _
  | _ => rcases later with ⟨⟨⟩⟩ | ⟨⟨⟩⟩

theorem Derives.head {text : List Char} (derives : Derives .value text) :
    ∃ char rest, text = char :: rest ∧ isBlank char = false ∧ char ≠ ']' := by
  cases derives with
  | number numeral =>
      obtain ⟨char, rest, rfl, first⟩ := numeral.head
      refine ⟨char, rest, rfl, isBlank_of_numeral first, ?_⟩
      rintro rfl
      simp at first
  | _ => exact ⟨_, _, rfl, rfl, by decide⟩

theorem skipRestIn_nil (text : List Char) : skipRestIn [] text = .ok text := by
  simp only [skipRestIn, skipRestWithin]

theorem Numeral.skipScalar {text : List Char} (numeral : Numeral text) (rest : List Char) :
    skipScalar (skipBlank (text ++ rest)) = skipNumber (text ++ rest) := by
  obtain ⟨char, more, rfl, first⟩ := numeral.head
  rw [List.cons_append, skipBlank_cons (isBlank_of_numeral first), skipScalar_of_numeral first]

theorem Numeral.passes_iff {text rest : List Char} (numeral : Numeral text) :
    Passes (text ++ rest) rest ↔ skipNumber (text ++ rest) = .ok rest := by
  rw [← numeral.skipScalar]
  constructor
  · intro passes
    have passed := passes []
    obtain ⟨char, more, rfl, first⟩ := numeral.head
    have stripped : skipBlank (char :: more ++ rest) = char :: (more ++ rest) :=
      skipBlank_cons (isBlank_of_numeral first) _
    rw [skipValueIn_eq, valueStep, skipRestIn_nil, stripped] at passed
    rw [stripped]
    split at passed
    · rename_i same
      obtain ⟨rfl, -⟩ := List.cons.inj same
      simp at first
    · rename_i same
      obtain ⟨rfl, -⟩ := List.cons.inj same
      simp at first
    · obtain ⟨after, skipped, behind⟩ := bind_eq_ok.mp passed
      rw [skipRestIn_nil] at behind
      cases behind
      exact skipped
  · exact passes_of_skipScalar

theorem Blank.passes_append {blanks : List Char} (blank : Blank blanks) {text rest : List Char} :
    Passes (blanks ++ text) rest ↔ Passes text rest := by
  rw [← passes_skipBlank, blank.skipBlank_append, passes_skipBlank]

/-- A text of the symbol is passed over, whatever follows; only a number has to end there. -/
def Symbol.Skips : Symbol → List Char → Prop
  | .value, text => ∀ rest, (Numeral text → skipNumber (text ++ rest) = .ok rest) →
    Passes (text ++ rest) rest
  | .elements first, text =>
    ∀ rest frames, skipElementsIn first frames (text ++ ']' :: rest) = skipRestIn frames rest
  | .members first, text =>
    ∀ rest frames, skipMembersIn first frames (text ++ '\x7d' :: rest) = skipRestIn frames rest

theorem Derives.skips {symbol : Symbol} {text : List Char} (derives : Derives symbol text) :
    symbol.Skips text := by
  induction derives with
  | nullWord => exact fun rest _ => passes_of_skipScalar rfl
  | trueWord => exact fun rest _ => passes_of_skipScalar rfl
  | falseWord => exact fun rest _ => passes_of_skipScalar rfl
  | number numeral => exact fun rest ends => numeral.passes_iff.mpr (ends numeral)
  | @string body quoted =>
      intro rest _
      apply passes_of_skipScalar
      rw [List.cons_append, List.append_assoc]
      exact skipCharacters_eq_ok_iff.mpr ⟨body, quoted, rfl⟩
  | @list inner elements ih =>
      intro rest _
      rw [List.cons_append, List.append_assoc]
      exact passes_of_elements rfl (ih rest)
  | @object inner members ih =>
      intro rest _
      rw [List.cons_append, List.append_assoc]
      exact passes_of_members rfl (ih rest)
  | noElement blank =>
      intro rest frames
      exact skipElementsIn_of_closed (closeList_of_blank blank rest) _ frames
  | @element first lead item more separator value others ihValue ihOthers =>
      intro rest frames
      have ends := others.delimits (.inl rfl) (show continuesNumber ']' = false from rfl) rest
      have passes := ihValue _ fun numeral => numeral.skip ends
      obtain ⟨char, tail, rfl, full, opens⟩ := value.head
      rw [← ihOthers rest frames]
      simp only [List.append_assoc]
      exact skipElementsIn_of_element (nextElement_of_separator separator full opens _) passes
        frames
  | noMember blank =>
      intro rest frames
      exact skipMembersIn_of_closed (nextMember_of_blank blank _ rest) frames
  | @member first lead key between item more separator quoted colon value others ihValue
      ihOthers =>
      intro rest frames
      have ends := others.delimits (.inr rfl) (show continuesNumber '\x7d' = false from rfl) rest
      have passes := ihValue _ fun numeral => numeral.skip ends
      obtain ⟨blanks, blank, separated⟩ := colon.colon
      rw [← ihOthers rest frames]
      simp only [List.append_assoc, List.cons_append]
      have keyed (text : List Char) : skipCharacters (key ++ '"' :: text) = .ok text :=
        skipCharacters_eq_ok_iff.mpr ⟨key, quoted, rfl⟩
      refine skipMembersIn_of_key (nextMember_of_separator separator _) (keyed _) (separated _) ?_
        frames
      exact blank.passes_append.mpr passes

theorem Derives.passes {text rest : List Char} (derives : Derives .value text)
    (delimits : Delimits rest) : Passes (text ++ rest) rest :=
  derives.skips rest fun numeral => numeral.skip delimits

theorem word_eq_ok {letters text rest : List Char} (passed : word letters text = .ok rest) :
    text = letters ++ rest := by
  induction letters generalizing text with
  | nil =>
      cases passed
      rfl
  | cons letter letters ih =>
      cases text with
      | nil => cases passed
      | cons char text =>
          simp only [word] at passed
          split at passed
          · rename_i same
            rw [same, ih passed]
            rfl
          · cases passed

theorem exists_derives_of_skipScalar {text rest : List Char}
    (skipped : skipScalar text = .ok rest) : ∃ item, Derives .value item ∧ text = item ++ rest := by
  unfold skipScalar at skipped
  split at skipped
  · cases skipped
  · exact ⟨_, .nullWord, congrArg ('n' :: ·) (word_eq_ok skipped)⟩
  · exact ⟨_, .trueWord, congrArg ('t' :: ·) (word_eq_ok skipped)⟩
  · exact ⟨_, .falseWord, congrArg ('f' :: ·) (word_eq_ok skipped)⟩
  · obtain ⟨body, quoted, rfl⟩ := skipCharacters_eq_ok_iff.mp skipped
    exact ⟨_, .string quoted, by simp⟩
  · split at skipped
    · obtain ⟨piece, numeral, same, -⟩ := exists_numeral_of_skipNumber skipped
      exact ⟨piece, .number numeral, same⟩
    · cases skipped

theorem exists_blanks_of_colon {text rest : List Char} (passed : colon text = .ok rest) :
    ∃ blanks, Blank blanks ∧ text = blanks ++ ':' :: rest := by
  unfold colon at passed
  split at passed
  · cases passed
  · rename_i stripped
    cases passed
    obtain ⟨blanks, blank, -, same⟩ := skipBlank_eq_cons_iff.mp stripped
    exact ⟨blanks, blank, same⟩
  · cases passed

theorem exists_key_of_skipKey {text rest : List Char} (passed : skipKey text = .ok rest) :
    ∃ lead key between, Blank lead ∧ Quoted key ∧ Blank between ∧
      text = lead ++ '"' :: (key ++ '"' :: (between ++ ':' :: rest)) := by
  unfold skipKey at passed
  split at passed
  · cases passed
  · rename_i stripped
    obtain ⟨lead, blank, -, rfl⟩ := skipBlank_eq_cons_iff.mp stripped
    obtain ⟨afterKey, skipped, separated⟩ := bind_eq_ok.mp passed
    obtain ⟨key, quoted, rfl⟩ := skipCharacters_eq_ok_iff.mp skipped
    obtain ⟨between, blankBetween, rfl⟩ := exists_blanks_of_colon separated
    exact ⟨lead, key, between, blank, quoted, blankBetween, rfl⟩
  · cases passed

/-- What closes the open frames, the innermost one first. -/
inductive Closes : List Frame → List Char → Prop
  | nothing : Closes [] []
  | list {frames : List Frame} {inner tail : List Char} (elements : Derives (.elements false) inner)
      (outer : Closes frames tail) : Closes (.list :: frames) (inner ++ ']' :: tail)
  | object {frames : List Frame} {inner tail : List Char} (members : Derives (.members false) inner)
      (outer : Closes frames tail) : Closes (.object :: frames) (inner ++ '\x7d' :: tail)

def HoldsValue (rest : List Char) (frames : List Frame) (text : List Char) : Prop :=
  ∃ lead item tail, Blank lead ∧ Derives .value item ∧ Closes frames tail ∧
    text = lead ++ (item ++ (tail ++ rest))

def HoldsRest (rest : List Char) (frames : List Frame) (text : List Char) : Prop :=
  ∃ tail, Closes frames tail ∧ text = tail ++ rest

section

variable {value next : List Frame → List Char → Except Fault (List Char)} {rest : List Char}
  (values : ∀ {frames : List Frame} {text : List Char},
    value frames text = .ok rest → HoldsValue rest frames text)
  (rests : ∀ {frames : List Frame} {text : List Char},
    next frames text = .ok rest → HoldsRest rest frames text)

include values rests

theorem holdsValue_of_valueStep {frames : List Frame} {text : List Char}
    (passed : valueStep value next frames text = .ok rest) : HoldsValue rest frames text := by
  unfold valueStep at passed
  split at passed
  · rename_i inner opened
    obtain ⟨lead, blank, -, rfl⟩ := skipBlank_eq_cons_iff.mp opened
    split at passed
    · cases passed
    · rename_i after closed
      obtain ⟨blanks, nothing, -, rfl⟩ := skipBlank_eq_cons_iff.mp closed
      obtain ⟨tail, closes, rfl⟩ := rests passed
      exact ⟨lead, _, tail, blank, .list (.noElement nothing), closes, by simp⟩
    · obtain ⟨before, item, tail, blanks, derives, closes, rfl⟩ := values passed
      cases closes with
      | list elements outer =>
          exact ⟨lead, _, _, blank, .list (.element blanks derives elements), outer, by simp⟩
  · rename_i inner opened
    obtain ⟨lead, blank, -, rfl⟩ := skipBlank_eq_cons_iff.mp opened
    split at passed
    · rename_i after closed
      obtain ⟨blanks, nothing, -, rfl⟩ := skipBlank_eq_cons_iff.mp closed
      obtain ⟨tail, closes, rfl⟩ := rests passed
      exact ⟨lead, _, tail, blank, .object (.noMember nothing), closes, by simp⟩
    · obtain ⟨afterKey, keyed, inside⟩ := bind_eq_ok.mp passed
      obtain ⟨start, key, between, blanks, quoted, blankBetween, rfl⟩ :=
        exists_key_of_skipKey keyed
      obtain ⟨before, item, tail, blankBefore, derives, closes, rfl⟩ := values inside
      have separated : Around ':' (between ++ ':' :: before) :=
        ⟨between, before, blankBetween, blankBefore, rfl⟩
      cases closes with
      | object members outer =>
          exact ⟨lead, _, _, blank, .object (.member blanks quoted separated derives members),
            outer, by simp⟩
  · obtain ⟨after, scalar, behind⟩ := bind_eq_ok.mp passed
    obtain ⟨item, derives, stripped⟩ := exists_derives_of_skipScalar scalar
    obtain ⟨tail, closes, rfl⟩ := rests behind
    obtain ⟨char, more, rfl, -, -⟩ := derives.head
    obtain ⟨lead, blank, -, rfl⟩ := skipBlank_eq_cons_iff.mp stripped
    exact ⟨lead, _, tail, blank, derives, closes, rfl⟩

theorem holdsRest_of_restStep {frames : List Frame} {text : List Char}
    (passed : restStep value next frames text = .ok rest) : HoldsRest rest frames text := by
  unfold restStep at passed
  split at passed
  · cases passed
    exact ⟨[], .nothing, rfl⟩
  · split at passed
    · cases passed
    · rename_i separator
      obtain ⟨lead, blank, -, rfl⟩ := skipBlank_eq_cons_iff.mp separator
      obtain ⟨before, item, tail, blankBefore, derives, closes, rfl⟩ := values passed
      have separated : Separator false (lead ++ ',' :: before) :=
        ⟨lead, before, blank, blankBefore, rfl⟩
      cases closes with
      | list elements outer =>
          exact ⟨_, .list (.element separated derives elements) outer, by simp⟩
    · rename_i closed
      obtain ⟨blanks, nothing, -, rfl⟩ := skipBlank_eq_cons_iff.mp closed
      obtain ⟨tail, closes, rfl⟩ := rests passed
      exact ⟨_, .list (.noElement nothing) closes, by simp⟩
    · cases passed
  · split at passed
    · cases passed
    · rename_i separator
      obtain ⟨lead, blank, -, rfl⟩ := skipBlank_eq_cons_iff.mp separator
      obtain ⟨afterKey, keyed, inside⟩ := bind_eq_ok.mp passed
      obtain ⟨start, key, between, blanks, quoted, blankBetween, rfl⟩ :=
        exists_key_of_skipKey keyed
      obtain ⟨before, item, tail, blankBefore, derives, closes, rfl⟩ := values inside
      have led : Separator false (lead ++ ',' :: start) := ⟨lead, start, blank, blanks, rfl⟩
      have separated : Around ':' (between ++ ':' :: before) :=
        ⟨between, before, blankBetween, blankBefore, rfl⟩
      cases closes with
      | object members outer =>
          exact ⟨_, .object (.member led quoted separated derives members) outer, by simp⟩
    · rename_i closed
      obtain ⟨blanks, nothing, -, rfl⟩ := skipBlank_eq_cons_iff.mp closed
      obtain ⟨tail, closes, rfl⟩ := rests passed
      exact ⟨_, .object (.noMember nothing) closes, by simp⟩
    · cases passed

end

theorem holds_of_skipWithin {rest : List Char} (steps : Nat) {frames : List Frame}
    {text : List Char} :
    (skipValueWithin steps frames text = .ok rest → HoldsValue rest frames text) ∧
      (skipRestWithin steps frames text = .ok rest → HoldsRest rest frames text) := by
  induction steps generalizing frames text with
  | zero =>
      constructor
      · intro passed
        simp [skipValueWithin] at passed
      · intro passed
        cases frames with
        | nil =>
            simp only [skipRestWithin] at passed
            cases passed
            exact ⟨[], .nothing, rfl⟩
        | cons frame frames => simp [skipRestWithin] at passed
  | succ steps ih =>
      rw [skipValueWithin_succ, skipRestWithin_succ]
      exact ⟨holdsValue_of_valueStep ih.1 ih.2, holdsRest_of_restStep ih.1 ih.2⟩

theorem exists_derives_of_passes {text rest : List Char} (passes : Passes text rest) :
    ∃ lead item, Blank lead ∧ Derives .value item ∧ text = lead ++ (item ++ rest) := by
  have passed : skipValueWithin (text.length + 1) [] text = .ok rest := passes_iff.mp passes
  obtain ⟨lead, item, tail, blank, derives, closes, same⟩ := (holds_of_skipWithin _).1 passed
  cases closes
  exact ⟨lead, item, blank, derives, same⟩

/-- Passing over a value is recognizing the grammar. -/
theorem passes_iff_derives {text rest : List Char} (delimits : Delimits rest) :
    Passes text rest ↔
      ∃ lead item, Blank lead ∧ Derives .value item ∧ text = lead ++ (item ++ rest) := by
  constructor
  · exact exists_derives_of_passes
  · rintro ⟨lead, item, blank, derives, rfl⟩
    exact blank.passes_append.mpr (derives.passes delimits)

theorem Derives.skipValue_append {item : List Char} (derives : Derives .value item)
    {blanks rest : List Char} (blank : Blank blanks) (delimits : Delimits rest) :
    skipValue (blanks ++ (item ++ rest)) = .ok rest :=
  passes_iff.mp (blank.passes_append.mpr (derives.passes delimits))

theorem Derives.skipValue_eq {item : List Char} (derives : Derives .value item) :
    skipValue item = .ok [] := by
  simpa using derives.skipValue_append blank_nil delimits_nil

theorem local_of_passes {text rest : List Char} (passes : Passes text rest) :
    ∃ piece, piece ≠ [] ∧ text = piece ++ rest ∧
      ∀ other, Fits rest other → Passes (piece ++ other) other := by
  obtain ⟨lead, item, blank, derives, rfl⟩ := exists_derives_of_passes passes
  obtain ⟨char, more, nonempty, -⟩ := derives.head
  refine ⟨lead ++ item, by simp [nonempty], by simp, fun other fits => ?_⟩
  rw [List.append_assoc, blank.passes_append]
  refine derives.skips other fun numeral => ?_
  rw [blank.passes_append, numeral.passes_iff] at passes
  obtain ⟨piece, -, same, again⟩ := exists_numeral_of_skipNumber passes
  obtain rfl := List.append_cancel_right same
  exact again other fits

end TelemetryRelay.Json
