import TelemetryRelay.Proofs.Grammar

/-!
Readers against what follows a value. What a reader gives depends on no more of a text than it
takes off, so a value that stands in a larger text is read as it is read alone.
-/

namespace TelemetryRelay.Json

/-- The reader takes a piece off the text and reads it alike before every text that fits. -/
def TakesOff {α : Type} (read : Reader α) (text : List Char) (value : α) (rest : List Char) :
    Prop :=
  ∃ piece, text = piece ++ rest ∧
    ∀ other, Fits rest other → read (piece ++ other) = .ok (value, other)

def Local {α : Type} (read : Reader α) : Prop :=
  ∀ (text : List Char) (value : α) (rest : List Char),
    read text = .ok (value, rest) → TakesOff read text value rest

theorem local_bind {α β : Type} {read : Reader α} {behind : α → Reader β} (first : Local read)
    (second : ∀ value, Local (behind value)) :
    Local (fun text => do
      let (value, rest) ← read text
      behind value rest) := by
  intro text result rest accepted
  obtain ⟨⟨value, middle⟩, taken, after⟩ := bind_eq_ok.mp accepted
  obtain ⟨piece, rfl, alike⟩ := first _ _ _ taken
  obtain ⟨more, rfl, alikeAfter⟩ := second value _ _ _ after
  refine ⟨piece ++ more, by simp, fun other fits => ?_⟩
  rw [List.append_assoc]
  exact bind_eq_ok.mpr ⟨_, alike _ (fits.append more), alikeAfter other fits⟩

theorem local_result {α : Type} (result : Except Fault α) :
    Local fun rest => do
      let value ← result
      return (value, rest) := by
  intro text value rest accepted
  cases result with
  | error fault => cases accepted
  | ok read =>
      cases accepted
      exact ⟨[], rfl, fun other _ => rfl⟩

theorem local_map {α β : Type} {read : Reader α} (confined : Local read) (convert : α → β) :
    Local fun text => do
      let (value, rest) ← read text
      return (convert value, rest) :=
  local_bind confined fun value => local_result (.ok (convert value))

theorem takesOff_of_opened {α : Type} {read inner : Reader α} {char : Char}
    {text after rest : List Char} {value : α} (opened : skipBlank text = char :: after)
    (goesOn : ∀ text after, skipBlank text = char :: after → read text = inner after)
    (taken : TakesOff inner after value rest) : TakesOff read text value rest := by
  obtain ⟨blanks, blank, full, rfl⟩ := skipBlank_eq_cons_iff.mp opened
  obtain ⟨piece, rfl, alike⟩ := taken
  refine ⟨blanks ++ char :: piece, by simp, fun other fits => ?_⟩
  rw [List.append_assoc, List.cons_append, goesOn _ _ (skipBlank_append_cons blank full _)]
  exact alike other fits

theorem local_characters : Local characters := by
  intro text value rest accepted
  obtain ⟨body, writes, rfl⟩ := characters_eq_ok_iff.mp accepted
  refine ⟨body ++ ['"'], by simp, fun other _ => ?_⟩
  exact characters_eq_ok_iff.mpr ⟨body, writes, by simp⟩

theorem local_string : Local string := by
  intro text value rest accepted
  unfold string at accepted
  split at accepted
  · rename_i quoted opened
    refine takesOff_of_opened opened ?_ (local_map local_characters String.ofList _ _ _ accepted)
    intro text after stripped
    rw [string, stripped]
    rfl
  · cases accepted

theorem exists_whole_of_magnitude {text rest : List Char} {value : Number}
    (accepted : magnitude text = .ok (value, rest)) :
    ∃ whole tail, WholePart whole ∧ text = whole ++ (tail ++ rest) ∧
      ∀ other, Fits rest other → magnitude (whole ++ (tail ++ other)) = .ok (value, other) := by
  simp only [magnitude, bind_eq_ok] at accepted
  obtain ⟨⟨whole, afterWhole⟩, readWhole, ⟨run, afterFraction⟩, readFraction,
    ⟨power, afterPower⟩, readPower, number, assembled, same⟩ := accepted
  cases same
  obtain ⟨fraction, exponent, wholes, -, -, rfl, again⟩ :=
    magnitude_parts readWhole readFraction readPower
  refine ⟨whole, fraction ++ exponent, wholes, by simp, fun other fits => ?_⟩
  obtain ⟨againWhole, againFraction, againPower⟩ := again other fits
  simp only [magnitude, bind_eq_ok, List.append_assoc]
  exact ⟨_, againWhole, _, againFraction, _, againPower, _, assembled, rfl⟩

theorem takesOff_number {char : Char} {text rest : List Char} {value : Number}
    (accepted : number (char :: text) = .ok (value, rest)) :
    TakesOff (fun text => number (char :: text)) text value rest := by
  by_cases minus : char = '-'
  · subst minus
    obtain ⟨size, read, rfl⟩ := map_eq_ok.mp accepted
    obtain ⟨whole, tail, -, rfl, again⟩ := exists_whole_of_magnitude read
    refine ⟨whole ++ tail, by simp, fun other fits => ?_⟩
    rw [List.append_assoc]
    exact map_eq_ok.mpr ⟨size, again other fits, rfl⟩
  · have unsigned (text : List Char) : number (char :: text) = magnitude (char :: text) := by
      simp [number, minus]
    rw [unsigned] at accepted
    obtain ⟨whole, tail, wholes, same, again⟩ := exists_whole_of_magnitude accepted
    obtain ⟨first, more, rfl, -⟩ := wholes.head
    obtain ⟨rfl, rfl⟩ := List.cons.inj same
    refine ⟨more ++ tail, by simp, fun other fits => ?_⟩
    simp only [List.append_assoc, unsigned]
    exact again other fits

theorem local_numeric {α : Type} (expected : String) (accept : Number → Except Fault α) :
    Local (numeric expected accept) := by
  intro text value rest accepted
  unfold numeric at accepted
  split at accepted
  · cases accepted
  · rename_i char after opened
    split at accepted
    · rename_i numeral
      obtain ⟨⟨read, middle⟩, taken, accepted⟩ := bind_eq_ok.mp accepted
      obtain ⟨converted, converts, same⟩ := bind_eq_ok.mp accepted
      cases same
      have goesOn (text after : List Char) (stripped : skipBlank text = char :: after) :
          numeric expected accept text = (number (char :: after) >>= fun read =>
            accept read.1 >>= fun accepted => .ok (accepted, read.2)) := by
        rw [numeric, stripped]
        exact if_pos numeral
      obtain ⟨piece, rfl, alike⟩ := takesOff_number taken
      refine takesOff_of_opened opened goesOn ⟨piece, rfl, fun other fits => ?_⟩
      exact bind_eq_ok.mpr ⟨_, alike other fits, bind_eq_ok.mpr ⟨_, converts, rfl⟩⟩
    · cases accepted

theorem local_int64 : Local int64 :=
  local_map (local_numeric _ _) Int64.ofInt

theorem local_uint64 : Local uint64 :=
  local_map (local_numeric _ _) fun value : Int => UInt64.ofNat value.toNat

theorem local_uint16 : Local uint16 :=
  local_map (local_numeric _ _) fun value : Int => UInt16.ofNat value.toNat

theorem local_float : Local float :=
  local_numeric _ _

theorem word_append (letters rest : List Char) : word letters (letters ++ rest) = .ok rest := by
  induction letters with
  | nil => rfl
  | cons letter letters ih => simp [word, ih]

theorem takesOff_word {α : Type} {read : Reader α} {char : Char}
    {letters text after rest : List Char} {value : α} (opened : skipBlank text = char :: after)
    (goesOn : ∀ text after, skipBlank text = char :: after → read text = do
      let rest ← word letters after
      return (value, rest))
    (passed : word letters after = .ok rest) : TakesOff read text value rest := by
  obtain rfl := word_eq_ok passed
  refine takesOff_of_opened opened goesOn ⟨letters, rfl, fun other _ => ?_⟩
  exact bind_eq_ok.mpr ⟨other, word_append _ _, rfl⟩

theorem local_unit : Local unit := by
  intro text value rest accepted
  unfold unit at accepted
  split at accepted
  · rename_i after opened
    obtain ⟨left, passed, same⟩ := bind_eq_ok.mp accepted
    cases same
    refine takesOff_word opened (fun text after stripped => ?_) passed
    rw [unit, stripped]
    rfl
  · cases accepted

theorem local_boolean : Local boolean := by
  intro text value rest accepted
  unfold boolean at accepted
  split at accepted
  · rename_i after opened
    obtain ⟨left, passed, same⟩ := bind_eq_ok.mp accepted
    cases same
    refine takesOff_word opened (fun text after stripped => ?_) passed
    rw [boolean, stripped]
    rfl
  · rename_i after opened
    obtain ⟨left, passed, same⟩ := bind_eq_ok.mp accepted
    cases same
    refine takesOff_word opened (fun text after stripped => ?_) passed
    rw [boolean, stripped]
    rfl
  · cases accepted

theorem local_optional {α : Type} {read : Reader α} (whole : Whole read) (confined : Local read) :
    Local (optional read) := by
  intro text value rest accepted
  unfold optional at accepted
  split at accepted
  · rename_i after opened
    obtain ⟨left, passed, same⟩ := bind_eq_ok.mp accepted
    cases same
    refine takesOff_word opened (fun text after stripped => ?_) passed
    rw [optional, stripped]
    rfl
  · rename_i present
    obtain ⟨inner, taken, rfl⟩ := map_eq_ok.mp accepted
    obtain ⟨piece, nonempty, same, -⟩ := local_of_passes (whole _ _ _ taken)
    obtain ⟨char, more, rfl⟩ := List.exists_cons_of_ne_nil nonempty
    have goesOn (text after : List Char) (stripped : skipBlank text = char :: after) :
        optional read text =
          (read (char :: after) >>= fun result => .ok (some result.1, result.2)) := by
      rw [optional, stripped]
      split
      · rename_i null
        obtain ⟨rfl, -⟩ := List.cons.inj null
        exact (present _ same).elim
      · rfl
    refine takesOff_of_opened same goesOn ⟨more, rfl, fun other fits => ?_⟩
    obtain ⟨piece, again, alike⟩ := confined _ _ _ taken
    obtain rfl := List.append_cancel_right (same.symm.trans again)
    exact map_eq_ok.mpr ⟨inner, alike other fits, rfl⟩

section

variable {State : Type} {member : String → State → Reader State}
  (confined : ∀ key state, Local (member key state))

include confined

theorem takesOff_membersWithin {count : Nat} {first : Bool} {state final : State}
    {text rest : List Char}
    (accepted : membersWithin member count first state text = .ok (final, rest)) :
    ∃ piece, text = piece ++ rest ∧ ∀ other enough, Fits rest other → piece.length < enough →
      membersWithin member enough first state (piece ++ other) = .ok (final, other) := by
  induction count generalizing first state text with
  | zero => cases accepted
  | succ count ih =>
      obtain ⟨found, next, accepted⟩ := bind_eq_ok.mp accepted
      cases found with
      | closed after =>
          cases accepted
          obtain ⟨blanks, blank, rfl⟩ := nextMember_eq_closed next
          refine ⟨blanks ++ ['\x7d'], by simp, fun other enough _ more => ?_⟩
          obtain ⟨enough, rfl⟩ := Nat.exists_eq_add_one_of_ne_zero (Nat.ne_zero_of_lt more)
          rw [List.append_assoc]
          exact bind_eq_ok.mpr ⟨_, nextMember_of_blank blank first other, rfl⟩
      | key quoted =>
          obtain ⟨⟨key, afterKey⟩, readKey, keyed⟩ := bind_eq_ok.mp accepted
          obtain ⟨⟨changed, afterItem⟩, readItem, behind⟩ := bind_eq_ok.mp keyed
          obtain ⟨lead, separator, rfl⟩ := nextMember_eq_key next
          obtain ⟨body, rfl, alikeKey⟩ := local_characters _ _ _ readKey
          obtain ⟨item, rfl, alikeItem⟩ := confined _ _ _ _ _ readItem
          obtain ⟨others, rfl, alikeOthers⟩ := ih behind
          refine ⟨lead ++ '"' :: (body ++ (item ++ others)), by simp, ?_⟩
          intro other enough fits more
          obtain ⟨enough, rfl⟩ := Nat.exists_eq_add_one_of_ne_zero (Nat.ne_zero_of_lt more)
          simp only [List.length_append, List.length_cons] at more
          simp only [List.append_assoc, List.cons_append]
          have fitsItem := fits.append others
          exact bind_eq_ok.mpr ⟨_, nextMember_of_separator separator _, bind_eq_ok.mpr
            ⟨_, alikeKey _ (fitsItem.append item), bind_eq_ok.mpr
              ⟨_, alikeItem _ fitsItem, alikeOthers other enough fits (by omega)⟩⟩⟩

theorem local_members (state : State) : Local (members member state) := by
  intro text value rest accepted
  obtain ⟨piece, rfl, alike⟩ := takesOff_membersWithin confined accepted
  refine ⟨piece, rfl, fun other fits => alike other _ fits ?_⟩
  rw [List.length_append]
  omega

end

theorem local_colon {α : Type} {read : Reader α} (confined : Local read) :
    Local (fun text => do
      let rest ← colon text
      read rest) := by
  intro text value rest accepted
  obtain ⟨after, separated, taken⟩ := bind_eq_ok.mp accepted
  obtain ⟨blanks, blank, rfl⟩ := exists_blanks_of_colon separated
  obtain ⟨piece, rfl, alike⟩ := confined _ _ _ taken
  refine ⟨blanks ++ ':' :: piece, by simp, fun other fits => ?_⟩
  rw [List.append_assoc]
  exact bind_eq_ok.mpr ⟨_, colon_of_blank blank _, alike other fits⟩

theorem local_textMember (key : String) (entries : List (String × String)) :
    Local (textMember key entries) :=
  local_colon (local_map local_string fun value => (key, value) :: entries)

theorem local_texts : Local texts := by
  intro text value rest accepted
  unfold texts at accepted
  split at accepted
  · rename_i opened
    have inside := local_map (local_members local_textMember []) List.reverse
    refine takesOff_of_opened opened ?_ (inside _ _ _ accepted)
    intro text after stripped
    rw [texts, stripped]
    rfl
  · cases accepted

theorem local_skipValue {α : Type} (value : α) :
    Local fun text => do
      let rest ← skipValue text
      return (value, rest) := by
  intro text result rest accepted
  obtain ⟨after, passed, same⟩ := bind_eq_ok.mp accepted
  cases same
  obtain ⟨piece, -, rfl, alike⟩ := local_of_passes (passes_iff.mpr passed)
  refine ⟨piece, rfl, fun other fits => bind_eq_ok.mpr ⟨other, ?_, rfl⟩⟩
  exact passes_iff.mp (alike other fits)

namespace Record

variable {State : Type} {record : Record State}

theorem local_member (confined : ∀ field ∈ record.fields, Local field.read) (key : String)
    (progress : List String × State) : Local (record.member key progress) := by
  unfold member
  split
  · exact local_colon (local_skipValue progress)
  · rename_i field found
    have confinedField := confined field (List.mem_of_find?_eq_some found)
    split
    · intro text value rest accepted
      cases accepted
    · exact local_colon
        (local_map confinedField fun change => (key :: progress.1, change progress.2))

theorem local_readMembers (confined : ∀ field ∈ record.fields, Local field.read) :
    Local record.readMembers := by
  intro text value rest accepted
  obtain ⟨⟨⟨keys, state⟩, after⟩, taken, complete⟩ := bind_eq_ok.mp accepted
  simp only at complete
  split at complete
  · cases complete
  · rename_i missing
    cases complete
    obtain ⟨piece, rfl, alike⟩ := local_members (local_member confined) _ _ _ _ taken
    refine ⟨piece, rfl, fun other fits => bind_eq_ok.mpr ⟨_, alike other fits, ?_⟩⟩
    simp only [missing]
    rfl

theorem readElements_of_closed (record : Record State) {blanks : List Char} (blank : Blank blanks)
    (first : Bool) (place : Nat) (fields : List (Field State)) (state : State) :
    ∃ result : Except Fault State, ∀ rest,
      record.readElements first place fields state (blanks ++ ']' :: rest) = do
        let state ← result
        return (state, rest) := by
  induction fields generalizing place with
  | nil =>
      refine ⟨.ok state, fun rest => ?_⟩
      exact bind_eq_ok.mpr ⟨rest, closeList_of_blank blank rest, rfl⟩
  | cons field fields ih =>
      have next (rest : List Char) := nextElement_of_closed blank first rest
      by_cases defaulted : field.absence = .defaulted
      · obtain ⟨result, same⟩ := ih (place + 1)
        refine ⟨result, fun rest => ?_⟩
        rw [← same rest, readElements, next]
        exact if_pos defaulted
      · refine ⟨.error (.tooShort place (record.expected ++ " with " ++
          toString record.fields.length ++ " elements")), fun rest => ?_⟩
        rw [readElements, next]
        exact if_neg defaulted

theorem local_readElements (fields : List (Field State))
    (whole : ∀ field ∈ fields, Whole field.read) (confined : ∀ field ∈ fields, Local field.read)
    (first : Bool) (place : Nat) (state : State) :
    Local (record.readElements first place fields state) := by
  induction fields generalizing first place state with
  | nil =>
      intro text value rest accepted
      obtain ⟨after, closed, same⟩ := bind_eq_ok.mp accepted
      cases same
      obtain ⟨blanks, blank, rfl⟩ := closeList_eq_ok closed
      refine ⟨blanks ++ [']'], by simp, fun other _ => ?_⟩
      rw [List.append_assoc]
      exact bind_eq_ok.mpr ⟨other, closeList_of_blank blank other, rfl⟩
  | cons field fields ih =>
      obtain ⟨wholeField, wholeOthers⟩ := List.forall_mem_cons.mp whole
      obtain ⟨confinedField, confinedOthers⟩ := List.forall_mem_cons.mp confined
      intro text value rest accepted
      obtain ⟨found, next, behind⟩ := bind_eq_ok.mp accepted
      cases found with
      | none =>
          obtain ⟨blanks, tail, blank, rfl⟩ := nextElement_eq_none next
          obtain ⟨result, same⟩ :=
            readElements_of_closed record blank first place (field :: fields) state
          rw [same] at accepted
          obtain ⟨last, rfl, finished⟩ := bind_eq_ok.mp accepted
          cases finished
          refine ⟨blanks ++ [']'], by simp, fun other _ => ?_⟩
          rw [List.append_assoc]
          exact same other
      | some item =>
          obtain ⟨⟨change, afterItem⟩, readItem, others⟩ := bind_eq_ok.mp behind
          obtain ⟨lead, char, tail, separator, full, opens, rfl, rfl⟩ := nextElement_eq_some next
          obtain ⟨piece, nonempty, same, -⟩ := local_of_passes (wholeField _ _ _ readItem)
          obtain ⟨again, sameAgain, alikeItem⟩ := confinedField _ _ _ readItem
          obtain rfl := List.append_cancel_right (same.symm.trans sameAgain)
          obtain ⟨head, more, rfl⟩ := List.exists_cons_of_ne_nil nonempty
          obtain ⟨rfl, rfl⟩ := List.cons.inj same
          obtain ⟨left, rfl, alikeOthers⟩ := ih wholeOthers confinedOthers _ _ _ _ _ _ others
          refine ⟨lead ++ char :: (more ++ left), by simp, fun other fits => ?_⟩
          simp only [List.append_assoc, List.cons_append]
          exact bind_eq_ok.mpr ⟨_, nextElement_of_separator separator full opens _, bind_eq_ok.mpr
            ⟨_, alikeItem _ (fits.append left), alikeOthers other fits⟩⟩

theorem local_read (whole : ∀ field ∈ record.fields, Whole field.read)
    (confined : ∀ field ∈ record.fields, Local field.read) : Local record.read := by
  intro text value rest accepted
  unfold read at accepted
  split at accepted
  · cases accepted
  · rename_i opened
    refine takesOff_of_opened opened (fun text after stripped => ?_)
      (local_readMembers confined _ _ _ accepted)
    rw [read, stripped]
    rfl
  · rename_i opened
    refine takesOff_of_opened opened (fun text after stripped => ?_)
      (local_readElements _ whole confined _ _ _ _ _ _ accepted)
    rw [read, stripped]
    rfl
  · cases accepted

end Record

theorem local_field {State α : Type} {reader : Reader α} (confined : Local reader) (key : String)
    (absence : Absence) (store : α → State → State) :
    Local (Field.of key absence reader store).read :=
  local_map confined store

theorem toOption_append {α : Type} {read : Reader α} (whole : Whole read) (confined : Local read)
    {item rest : List Char} (derives : Derives .value item) (delimits : Delimits rest) :
    (read (item ++ rest)).toOption = (read item).toOption.map fun result => (result.1, rest) := by
  have ends {rest after : List Char} (delimits : Delimits rest)
      (passes : Passes (item ++ rest) after) : after = rest :=
    Except.ok.inj ((passes_iff.mp passes).symm.trans (passes_iff.mp (derives.passes delimits)))
  cases alone : read item with
  | error fault =>
      cases together : read (item ++ rest) with
      | error fault => rfl
      | ok result =>
          obtain ⟨value, after⟩ := result
          obtain rfl := ends delimits (whole _ _ _ together)
          obtain ⟨piece, same, alike⟩ := confined _ _ _ together
          obtain rfl := List.append_cancel_right same
          have nothing := alike [] (delimits_nil.fits after)
          rw [List.append_nil, alone] at nothing
          cases nothing
  | ok result =>
      obtain ⟨value, after⟩ := result
      have passes := whole _ _ _ alone
      rw [← List.append_nil item] at passes
      obtain rfl := ends delimits_nil passes
      obtain ⟨piece, same, alike⟩ := confined _ _ _ alone
      rw [List.append_nil] at same
      subst same
      rw [alike rest (delimits.fits [])]
      rfl

def SkipsBlank {α : Type} (read : Reader α) : Prop :=
  ∀ text, read (skipBlank text) = read text

theorem SkipsBlank.append {α : Type} {read : Reader α} (skips : SkipsBlank read)
    {blanks : List Char} (blank : Blank blanks) (text : List Char) :
    read (blanks ++ text) = read text := by
  rw [← skips, blank.skipBlank_append, skips]

theorem skipsBlank_string : SkipsBlank string := by
  intro text
  rw [string, string, skipBlank_skipBlank]

theorem skipsBlank_numeric {α : Type} (expected : String) (accept : Number → Except Fault α) :
    SkipsBlank (numeric expected accept) := by
  intro text
  rw [numeric, numeric, skipBlank_skipBlank]

theorem skipsBlank_optional {α : Type} (read : Reader α) : SkipsBlank (optional read) := by
  intro text
  rw [optional, optional, skipBlank_skipBlank]

theorem skipsBlank_boolean : SkipsBlank boolean := by
  intro text
  rw [boolean, boolean, skipBlank_skipBlank]

theorem skipsBlank_texts : SkipsBlank texts := by
  intro text
  rw [texts, texts, skipBlank_skipBlank]

theorem skipsBlank_map {α β : Type} {read : Reader α} (skips : SkipsBlank read) (convert : α → β) :
    SkipsBlank fun text => do
      let (value, rest) ← read text
      return (convert value, rest) := by
  intro text
  simp only [skips text]

theorem skipsBlank_uint64 : SkipsBlank uint64 :=
  skipsBlank_map (skipsBlank_numeric _ _) fun value : Int => UInt64.ofNat value.toNat

theorem skipsBlank_uint16 : SkipsBlank uint16 :=
  skipsBlank_map (skipsBlank_numeric _ _) fun value : Int => UInt16.ofNat value.toNat

theorem skipsBlank_field {State α : Type} {reader : Reader α} (skips : SkipsBlank reader)
    (key : String) (absence : Absence) (store : α → State → State) :
    SkipsBlank (Field.of key absence reader store).read :=
  skipsBlank_map skips store

end TelemetryRelay.Json

namespace TelemetryRelay.Envelope

open Json

theorem local_readType : Local readType := by
  intro text type rest accepted
  unfold readType at accepted
  split at accepted
  · cases accepted
  · rename_i opened
    have named := local_map local_characters fun name => EventType.ofName (String.ofList name)
    refine takesOff_of_opened opened (fun text after stripped => ?_) (named _ _ _ accepted)
    rw [readType, stripped]
    rfl
  · rename_i inner opened
    obtain ⟨blanks, blank, -, rfl⟩ := skipBlank_eq_cons_iff.mp opened
    split at accepted
    · cases accepted
    · cases accepted
    · rename_i quoted stripped
      obtain ⟨lead, blankLead, -, rfl⟩ := skipBlank_eq_cons_iff.mp stripped
      obtain ⟨⟨name, afterName⟩, read, separated⟩ := bind_eq_ok.mp accepted
      obtain ⟨value, colon, nulled⟩ := bind_eq_ok.mp separated
      obtain ⟨⟨nothing, afterValue⟩, null, closing⟩ := bind_eq_ok.mp nulled
      simp only at closing
      split at closing
      · cases closing
      · rename_i closed
        cases closing
        obtain ⟨tail, blankTail, -, rfl⟩ := skipBlank_eq_cons_iff.mp closed
        obtain ⟨item, rfl, alikeNull⟩ := local_unit _ _ _ null
        obtain ⟨between, blankBetween, rfl⟩ := exists_blanks_of_colon colon
        obtain ⟨body, rfl, alikeName⟩ := local_characters _ _ _ read
        refine ⟨blanks ++ '\x7b' :: (lead ++ '"' :: (body ++ (between ++ ':' ::
          (item ++ (tail ++ ['\x7d']))))), by simp, fun other _ => ?_⟩
        have fitsValue := (fits_cons '\x7d' rest other).append tail
        have fitsName := (fits_cons ':' (item ++ (tail ++ '\x7d' :: rest))
          (item ++ (tail ++ '\x7d' :: other))).append between
        simp only [List.append_assoc, List.cons_append, List.nil_append]
        rw [readType, skipBlank_append_cons blank rfl]
        simp only [skipBlank_append_cons blankLead (show isBlank '"' = false from rfl)]
        refine bind_eq_ok.mpr ⟨_, alikeName _ fitsName, bind_eq_ok.mpr ⟨_,
          colon_of_blank blankBetween _, bind_eq_ok.mpr ⟨_, alikeNull _ fitsValue, ?_⟩⟩⟩
        simp only [skipBlank_append_cons blankTail (show isBlank '\x7d' = false from rfl)]
        rfl
      · cases closing
    · cases accepted
  · cases accepted

theorem local_readTags : Local readTags := by
  intro text tags rest accepted
  obtain ⟨⟨pairs, after⟩, read, same⟩ := bind_eq_ok.mp accepted
  cases same
  obtain ⟨piece, rfl, alike⟩ := local_texts _ _ _ read
  exact ⟨piece, rfl, fun other fits => bind_eq_ok.mpr ⟨_, alike other fits, rfl⟩⟩

theorem local_valueMetric_field : ∀ field ∈ valueMetricRecord.fields, Local field.read := by
  simp only [valueMetricRecord, List.forall_mem_cons]
  exact ⟨local_field local_string _ _ _, local_field local_float _ _ _,
    local_field local_string _ _ _, by simp⟩

theorem local_counterEvent_field : ∀ field ∈ counterEventRecord.fields, Local field.read := by
  simp only [counterEventRecord, List.forall_mem_cons]
  exact ⟨local_field local_string _ _ _, local_field local_uint64 _ _ _,
    local_field local_uint64 _ _ _, by simp⟩

theorem local_draft_field : ∀ field ∈ draftRecord.fields, Local field.read := by
  have text := local_optional whole_string local_string
  have metric := local_optional (Record.whole_read whole_valueMetric_field)
    (Record.local_read whole_valueMetric_field local_valueMetric_field)
  have counter := local_optional (Record.whole_read whole_counterEvent_field)
    (Record.local_read whole_counterEvent_field local_counterEvent_field)
  simp only [draftRecord, List.forall_mem_cons]
  exact ⟨local_field text _ _ _, local_field local_readType _ _ _, local_field local_int64 _ _ _,
    local_field text _ _ _, local_field text _ _ _, local_field text _ _ _,
    local_field text _ _ _, local_field local_readTags _ _ _, local_field metric _ _ _,
    local_field counter _ _ _, by simp⟩

theorem skipsBlank_readType : SkipsBlank readType := by
  intro text
  rw [readType, readType, skipBlank_skipBlank]

theorem skipsBlank_readTags : SkipsBlank readTags := by
  intro text
  rw [readTags, readTags, skipsBlank_texts text]

theorem skipsBlank_valueMetric_field :
    ∀ field ∈ valueMetricRecord.fields, SkipsBlank field.read := by
  simp only [valueMetricRecord, List.forall_mem_cons]
  exact ⟨skipsBlank_field skipsBlank_string _ _ _, skipsBlank_field (skipsBlank_numeric _ _) _ _ _,
    skipsBlank_field skipsBlank_string _ _ _, by simp⟩

theorem skipsBlank_counterEvent_field :
    ∀ field ∈ counterEventRecord.fields, SkipsBlank field.read := by
  simp only [counterEventRecord, List.forall_mem_cons]
  exact ⟨skipsBlank_field skipsBlank_string _ _ _, skipsBlank_field skipsBlank_uint64 _ _ _,
    skipsBlank_field skipsBlank_uint64 _ _ _, by simp⟩

theorem skipsBlank_draft_field : ∀ field ∈ draftRecord.fields, SkipsBlank field.read := by
  have text := skipsBlank_optional string
  have time := skipsBlank_map (skipsBlank_numeric "i64" (within "i64" (-2 ^ 63) (2 ^ 63 - 1)))
    Int64.ofInt
  simp only [draftRecord, List.forall_mem_cons]
  exact ⟨skipsBlank_field text _ _ _, skipsBlank_field skipsBlank_readType _ _ _,
    skipsBlank_field time _ _ _, skipsBlank_field text _ _ _, skipsBlank_field text _ _ _,
    skipsBlank_field text _ _ _, skipsBlank_field text _ _ _,
    skipsBlank_field skipsBlank_readTags _ _ _,
    skipsBlank_field (skipsBlank_optional valueMetricRecord.read) _ _ _,
    skipsBlank_field (skipsBlank_optional counterEventRecord.read) _ _ _, by simp⟩

end TelemetryRelay.Envelope
