import TelemetryRelay.Proofs.Grammar

/-!
The members of an object, with their keys as they read and their values as they are written. Which
members a text has is found by going through it once.
-/

namespace TelemetryRelay.Json

/-- The text between the brackets of an object, with its members; `first` says that no member
precedes. -/
inductive Lists : Bool → List (String × List Char) → List Char → Prop
  | nothing {first : Bool} {blanks : List Char} (blank : Blank blanks) : Lists first [] blanks
  | member {first : Bool} {lead key chars between item more : List Char}
      {members : List (String × List Char)} (separator : Separator first lead)
      (writes : Writes key chars) (colon : Around ':' between) (value : Derives .value item)
      (rest : Lists false members more) :
      Lists first ((String.ofList chars, item) :: members)
        (lead ++ '"' :: (key ++ '"' :: (between ++ (item ++ more))))

def IsObject (members : List (String × List Char)) (text : List Char) : Prop :=
  ∃ inner, Lists true members inner ∧ text = '\x7b' :: (inner ++ ['\x7d'])

def IsDocument (members : List (String × List Char)) (text : List Char) : Prop :=
  ∃ lead object tail, Blank lead ∧ IsObject members object ∧ Blank tail ∧
    text = lead ++ (object ++ tail)

namespace Lists

variable {first : Bool} {members : List (String × List Char)} {text : List Char}

theorem derives (lists : Lists first members text) : Derives (.members first) text := by
  induction lists with
  | nothing blank => exact .noMember blank
  | member separator writes colon value rest ih =>
      exact .member separator writes.quoted colon value ih

theorem value (lists : Lists first members text) : ∀ member ∈ members, Derives .value member.2 := by
  induction lists with
  | nothing blank => simp
  | member separator writes colon value rest ih => exact List.forall_mem_cons.mpr ⟨value, ih⟩

theorem length_le (lists : Lists first members text) : members.length ≤ text.length := by
  induction lists with
  | nothing blank => exact Nat.zero_le _
  | member separator writes colon value rest ih =>
      simp only [List.length_append, List.length_cons]
      omega

theorem delimits (lists : Lists false members text) (rest : List Char) :
    Delimits (text ++ '\x7d' :: rest) :=
  lists.derives.delimits (.inr rfl) rfl rest

end Lists

section Loop

variable {State : Type} {member : String → State → Reader State}

theorem membersWithin_of_blank {blanks : List Char} (blank : Blank blanks) (count : Nat)
    (first : Bool) (state : State) (rest : List Char) :
    membersWithin member (count + 1) first state (blanks ++ '\x7d' :: rest) =
      .ok (state, rest) := by
  rw [membersWithin, nextMember_of_blank blank]
  rfl

theorem membersWithin_of_separator {first : Bool} {lead key chars : List Char}
    (separator : Separator first lead) (writes : Writes key chars) (count : Nat) (state : State)
    (text : List Char) :
    membersWithin member (count + 1) first state (lead ++ '"' :: (key ++ '"' :: text)) =
      (member (String.ofList chars) state text >>= fun result =>
        membersWithin member count false result.1 result.2) := by
  have keyed : characters (key ++ '"' :: text) = .ok (chars, text) :=
    characters_eq_ok_iff.mpr ⟨key, writes, rfl⟩
  rw [membersWithin, nextMember_of_separator separator]
  change (characters (key ++ '"' :: text) >>= _) = _
  rw [keyed]
  rfl

theorem exists_lists_of_membersWithin (whole : WholeMember member) {count : Nat} {first : Bool}
    {state final : State} {text rest : List Char}
    (accepted : membersWithin member count first state text = .ok (final, rest)) :
    ∃ members inner, Lists first members inner ∧ members.length < count ∧
      text = inner ++ '\x7d' :: rest := by
  induction count generalizing first state text with
  | zero => cases accepted
  | succ count ih =>
      obtain ⟨found, next, accepted⟩ := bind_eq_ok.mp accepted
      cases found with
      | closed after =>
          cases accepted
          obtain ⟨blanks, blank, rfl⟩ := nextMember_eq_closed next
          exact ⟨[], blanks, .nothing blank, Nat.succ_pos count, rfl⟩
      | key quoted =>
          obtain ⟨⟨chars, afterKey⟩, read, accepted⟩ := bind_eq_ok.mp accepted
          obtain ⟨⟨changed, afterItem⟩, taken, accepted⟩ := bind_eq_ok.mp accepted
          obtain ⟨value, separated, passes⟩ := whole taken
          obtain ⟨members, inner, lists, fewer, rfl⟩ := ih accepted
          obtain ⟨lead, separator, rfl⟩ := nextMember_eq_key next
          obtain ⟨key, writes, rfl⟩ := characters_eq_ok_iff.mp read
          obtain ⟨before, blank, rfl⟩ := exists_blanks_of_colon separated
          obtain ⟨after, item, blankAfter, derives, rfl⟩ := exists_derives_of_passes passes
          refine ⟨(String.ofList chars, item) :: members, _,
            .member separator writes ⟨before, after, blank, blankAfter, rfl⟩ derives lists,
            Nat.succ_lt_succ fewer, ?_⟩
          simp only [List.append_assoc, List.cons_append]

end Loop

def writtenMember (key : String) (entries : List (String × List Char)) :
    Reader (List (String × List Char)) :=
  fun text => do
    let value ← colon text
    let rest ← skipValue value
    let item := skipBlank value
    return ((key, item.take (item.length - rest.length)) :: entries, rest)

def objectMembers? : List Char → Option (List (String × List Char))
  | '\x7b' :: text =>
    match members writtenMember [] text with
    | .ok (entries, []) => some entries.reverse
    | _ => none
  | _ => none

theorem wholeMember_written : WholeMember writtenMember := by
  intro key state next text rest accepted
  obtain ⟨value, separated, accepted⟩ := bind_eq_ok.mp accepted
  obtain ⟨after, passed, same⟩ := bind_eq_ok.mp accepted
  cases same
  exact ⟨value, separated, passes_iff.mpr passed⟩

theorem writtenMember_eq {between item rest : List Char} (colon : Around ':' between)
    (value : Derives .value item) (delimits : Delimits rest) (key : String)
    (entries : List (String × List Char)) :
    writtenMember key entries (between ++ (item ++ rest)) = .ok ((key, item) :: entries, rest) := by
  obtain ⟨blanks, blank, separated⟩ := colon.colon
  have passed := value.skipValue_append blank delimits
  obtain ⟨char, more, same, full, -⟩ := value.head
  have stripped : skipBlank (blanks ++ (item ++ rest)) = item ++ rest := by
    rw [same, List.cons_append, skipBlank_append_cons blank full]
  have taken : (item ++ rest).take ((item ++ rest).length - rest.length) = item := by
    rw [List.length_append, Nat.add_sub_cancel, List.take_left]
  unfold writtenMember
  simp only [separated, passed, stripped, bind, Except.bind]
  rw [taken]
  rfl

theorem membersWithin_writtenMember {first : Bool} {members : List (String × List Char)}
    {inner : List Char} (lists : Lists first members inner)
    (entries : List (String × List Char)) {count : Nat} (enough : members.length < count)
    (rest : List Char) :
    membersWithin writtenMember count first entries (inner ++ '\x7d' :: rest) =
      .ok (members.reverse ++ entries, rest) := by
  induction lists generalizing entries count with
  | nothing blank =>
      obtain ⟨count, rfl⟩ := Nat.exists_eq_add_one_of_ne_zero (Nat.ne_zero_of_lt enough)
      exact membersWithin_of_blank blank count _ entries rest
  | member separator writes colon value others ih =>
      obtain ⟨count, rfl⟩ := Nat.exists_eq_add_one_of_ne_zero (Nat.ne_zero_of_lt enough)
      simp only [List.append_assoc, List.cons_append]
      rw [membersWithin_of_separator separator writes,
        writtenMember_eq colon value (others.delimits rest)]
      simp only [bind, Except.bind]
      rw [ih _ (Nat.lt_of_succ_lt_succ enough)]
      simp

theorem isObject_iff {members : List (String × List Char)} {text : List Char} :
    IsObject members text ↔ objectMembers? text = some members := by
  constructor
  · rintro ⟨inner, lists, rfl⟩
    have enough : members.length < (inner ++ ['\x7d']).length + 1 := by
      have fewer := lists.length_le
      rw [List.length_append]
      omega
    rw [objectMembers?, Json.members, membersWithin_writtenMember lists [] enough]
    simp
  · intro found
    unfold objectMembers? at found
    split at found
    · rename_i inner
      split at found
      · rename_i entries read
        obtain ⟨others, inner, lists, enough, rfl⟩ :=
          exists_lists_of_membersWithin wholeMember_written read
        rw [Json.members, membersWithin_writtenMember lists [] enough] at read
        cases read
        simp only [List.append_nil, List.reverse_reverse] at found
        cases found
        exact ⟨inner, lists, rfl⟩
      · cases found
    · cases found

instance (members : List (String × List Char)) (text : List Char) :
    Decidable (IsObject members text) :=
  decidable_of_iff _ isObject_iff.symm

end TelemetryRelay.Json
