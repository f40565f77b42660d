import Mathlib.Data.Finset.Dedup
import Mathlib.Data.Finset.Insert
import Mathlib.Data.List.Forall2
import Mathlib.Data.List.Pairwise
import TelemetryRelay.Proofs.Listing
import TelemetryRelay.Proofs.Locality
import TelemetryRelay.Proofs.Parts

/-!
Records from the members of an object. What is read of an object is what its members give when they
are taken one by one, each read alone, and that depends neither on their order nor on members that
belong to no field.
-/

namespace TelemetryRelay.Json

/-- The members in another order, their values written otherwise where `alike` allows it, and
further members with other keys than `keys`. -/
def Shuffled (keys : List String) (alike : String → List Char → List Char → Prop)
    (members others : List (String × List Char)) : Prop :=
  ∃ changed extra, List.Forall₂ (fun member other => member.1 = other.1 ∧
      alike member.1 member.2 other.2) members changed ∧
    (∀ member ∈ extra, member.1 ∉ keys) ∧ others.Perm (changed ++ extra)

/-- Neither field has a bearing on what the other one stores. -/
def Field.Commutes {State : Type} (field other : Field State) : Prop :=
  ∀ text change rest otherText otherChange otherRest, field.read text = .ok (change, rest) →
    other.read otherText = .ok (otherChange, otherRest) →
    ∀ state, change (otherChange state) = otherChange (change state)

instance {State : Type} : Std.Symm (@Field.Commutes State) where
  symm _ _ commutes _ _ _ _ _ _ read otherRead state :=
    (commutes _ _ _ _ _ _ otherRead read state).symm

theorem Field.commutes_of {State α β : Type} {key otherKey : String}
    {absence otherAbsence : Absence} {reader : Reader α} {otherReader : Reader β}
    {store : α → State → State} {otherStore : β → State → State}
    (independent : ∀ value other state,
      store value (otherStore other state) = otherStore other (store value state)) :
    (Field.of key absence reader store).Commutes
      (Field.of otherKey otherAbsence otherReader otherStore) := by
  intro text change rest otherText otherChange otherRest read otherRead state
  obtain ⟨value, -, rfl⟩ := map_eq_ok.mp read
  obtain ⟨other, -, rfl⟩ := map_eq_ok.mp otherRead
  exact independent value other state

theorem toOption_bind {ε α β : Type} (action : Except ε α) (next : α → Except ε β) :
    (action >>= next).toOption = action.toOption.bind fun value => (next value).toOption := by
  cases action <;> rfl

namespace Record

variable {State : Type}

/-- What a record needs of its fields for the order of members not to matter. -/
structure Regular (record : Record State) : Prop where
  whole : ∀ field ∈ record.fields, Whole field.read
  confined : ∀ field ∈ record.fields, Local field.read
  skips : ∀ field ∈ record.fields, SkipsBlank field.read
  commute : record.fields.Pairwise Field.Commutes

def take (record : Record State) (progress : Finset String × State)
    (member : String × List Char) : Option (Finset String × State) :=
  match record.fields.find? fun field => field.key == member.1 with
  | none => (skipValue member.2).toOption.map fun _ => progress
  | some field =>
    if member.1 ∈ progress.1 then none
    else (field.read member.2).toOption.map fun result =>
      (insert member.1 progress.1, result.1 progress.2)

def ofMembers? (record : Record State) (members : List (String × List Char)) : Option State := do
  let progress ← members.foldlM record.take (∅, record.initial)
  if ∀ field ∈ record.fields, field.absence = .required → field.key ∈ progress.1 then
    some progress.2
  else none

def seen (progress : List String × State) : Finset String × State :=
  (progress.1.toFinset, progress.2)

def seenResult (result : (List String × State) × List Char) :
    (Finset String × State) × List Char :=
  (seen result.1, result.2)

variable {record : Record State}

theorem toOption_member (regular : record.Regular) (key : String) (progress : List String × State)
    {between item rest : List Char} (around : Around ':' between) (derives : Derives .value item)
    (delimits : Delimits rest) :
    (record.member key progress (between ++ (item ++ rest))).toOption.map seenResult =
      (record.take (seen progress) (key, item)).map fun progress => (progress, rest) := by
  obtain ⟨blanks, blank, separated⟩ := around.colon
  unfold member take
  cases found : record.fields.find? fun field => field.key == key with
  | none =>
      have together := derives.skipValue_append blank delimits
      simp only [separated, together, derives.skipValue_eq, bind, Except.bind]
      rfl
  | some field =>
      have belongs := List.mem_of_find?_eq_some found
      have alone := toOption_append (regular.whole field belongs) (regular.confined field belongs)
        derives delimits
      simp only [seen, List.mem_toFinset]
      by_cases repeated : key ∈ progress.1
      · simp [repeated, Except.toOption]
      · simp only [repeated, List.contains_iff_mem, if_false]
        rw [separated]
        change (field.read (blanks ++ (item ++ rest)) >>= _).toOption.map _ = _
        rw [(regular.skips field belongs).append blank, toOption_bind, alone]
        cases (field.read item).toOption with
        | none => rfl
        | some result => simp [Except.toOption, pure, Except.pure, seenResult, seen]

theorem toOption_membersWithin (regular : record.Regular) {first : Bool}
    {members : List (String × List Char)} {inner : List Char} (lists : Lists first members inner)
    (progress : List String × State) {count : Nat} (enough : members.length < count)
    (rest : List Char) :
    (membersWithin record.member count first progress (inner ++ '\x7d' :: rest)).toOption.map
        seenResult =
      (members.foldlM record.take (seen progress)).map fun progress => (progress, rest) := by
  induction lists generalizing progress count with
  | @nothing first blanks blank =>
      obtain ⟨count, rfl⟩ := Nat.exists_eq_add_one_of_ne_zero (Nat.ne_zero_of_lt enough)
      rw [membersWithin_of_blank blank]
      rfl
  | @member first lead key chars between item more members separator writes colon value others ih =>
      obtain ⟨count, rfl⟩ := Nat.exists_eq_add_one_of_ne_zero (Nat.ne_zero_of_lt enough)
      have step := toOption_member regular (String.ofList chars) progress colon value
        (others.delimits rest)
      simp only [List.append_assoc, List.cons_append]
      rw [membersWithin_of_separator separator writes, toOption_bind, List.foldlM_cons]
      cases took : (record.member (String.ofList chars) progress
          (between ++ (item ++ (more ++ '\x7d' :: rest)))).toOption with
      | none =>
          rw [took, Option.map_none] at step
          rw [Option.map_eq_none_iff.mp step.symm]
          rfl
      | some result =>
          rw [took, Option.map_some] at step
          obtain ⟨after, taken, same⟩ := Option.map_eq_some_iff.mp step.symm
          obtain ⟨rfl, behind⟩ := Prod.mk.inj same
          rw [taken]
          simp only [Option.bind_some, ← behind]
          exact ih result.1 (Nat.lt_of_succ_lt_succ enough)

theorem take_of_foreign {progress : Finset String × State} {key : String} {item : List Char}
    (foreign : key ∉ record.keys) (derives : Derives .value item) :
    record.take progress (key, item) = some progress := by
  have absent : (record.fields.find? fun field => field.key == key) = none := by
    simpa [keys] using foreign
  simp only [take, absent, derives.skipValue_eq]
  rfl

theorem foldlM_take_of_foreign {extra : List (String × List Char)}
    (foreign : ∀ member ∈ extra, member.1 ∉ record.keys)
    (derives : ∀ member ∈ extra, Derives .value member.2) (progress : Finset String × State) :
    extra.foldlM record.take progress = some progress := by
  induction extra with
  | nil => rfl
  | cons member extra ih =>
      obtain ⟨foreignMember, foreign⟩ := List.forall_mem_cons.mp foreign
      obtain ⟨derivesMember, derives⟩ := List.forall_mem_cons.mp derives
      rw [List.foldlM_cons, take_of_foreign foreignMember derivesMember]
      exact ih foreign derives

theorem foldlM_take_congr {members others : List (String × List Char)}
    (alike : List.Forall₂ (fun member other => ∀ progress,
      record.take progress member = record.take progress other) members others)
    (progress : Finset String × State) :
    members.foldlM record.take progress = others.foldlM record.take progress := by
  induction alike generalizing progress with
  | nil => rfl
  | cons same _ ih => simp only [List.foldlM_cons, same, ih]

theorem commutes_of_key_ne (regular : record.Regular) {field other : Field State}
    (member : field ∈ record.fields) (otherMember : other ∈ record.fields)
    (differ : field.key ≠ other.key) : field.Commutes other := by
  have distinct : field ≠ other := by
    rintro rfl
    exact differ rfl
  exact regular.commute.forall member otherMember distinct

theorem take_cases (record : Record State) (member : String × List Char) :
    (∀ progress, record.take progress member = none) ∨
      (∀ progress, record.take progress member = some progress) ∨
      ∃ field ∈ record.fields, ∃ change rest, field.key = member.1 ∧
        field.read member.2 = .ok (change, rest) ∧
        ∀ progress, record.take progress member =
          if member.1 ∈ progress.1 then none
          else some (insert member.1 progress.1, change progress.2) := by
  cases found : record.fields.find? fun field => field.key == member.1 with
  | none =>
      have taken (progress : Finset String × State) : record.take progress member =
          (skipValue member.2).toOption.map fun _ => progress := by
        simp only [take, found]
      cases skipped : (skipValue member.2).toOption with
      | none => exact .inl fun progress => by rw [taken, skipped]; rfl
      | some rest => exact .inr (.inl fun progress => by rw [taken, skipped]; rfl)
  | some field =>
      have named : (field.key == member.1) = true :=
        List.find?_some (p := fun other : Field State => other.key == member.1) found
      cases read : field.read member.2 with
      | error fault =>
          left
          intro progress
          simp [take, found, read, Except.toOption]
      | ok result =>
          right
          right
          refine ⟨field, List.mem_of_find?_eq_some found, result.1, result.2, eq_of_beq named,
            read, fun progress => ?_⟩
          simp [take, found, read, Except.toOption]

theorem take_comm (regular : record.Regular) (progress : Finset String × State)
    (member other : String × List Char) :
    (record.take progress member).bind (fun next => record.take next other) =
      (record.take progress other).bind fun next => record.take next member := by
  rcases record.take_cases member with never | always |
    ⟨field, belongs, change, rest, named, read, taken⟩
  · simp [never]
  · simp [always]
  rcases record.take_cases other with never | always |
    ⟨otherField, otherBelongs, otherChange, otherRest, otherNamed, otherRead, otherTaken⟩
  · simp [never]
  · simp [always]
  by_cases same : member.1 = other.1
  · by_cases repeated : other.1 ∈ progress.1 <;> simp [taken, otherTaken, same, repeated]
  · have commutes := commutes_of_key_ne regular belongs otherBelongs (by rwa [named, otherNamed])
    have swapped := commutes _ _ _ _ _ _ read otherRead progress.2
    by_cases first : member.1 ∈ progress.1 <;> by_cases second : other.1 ∈ progress.1 <;>
      simp [taken, otherTaken, first, second, same, Ne.symm same, swapped, Finset.insert_comm]

theorem foldlM_take_perm (regular : record.Regular) {members others : List (String × List Char)}
    (perm : members.Perm others) (progress : Finset String × State) :
    members.foldlM record.take progress = others.foldlM record.take progress := by
  induction perm generalizing progress with
  | nil => rfl
  | cons member _ ih => simp only [List.foldlM_cons, ih]
  | swap first second rest =>
      have swapped := take_comm regular progress second first
      simp only [List.foldlM_cons, ← bind_assoc]
      exact congrArg (· >>= fun next => rest.foldlM record.take next) swapped
  | trans _ _ first second => exact (first progress).trans (second progress)

theorem ofMembers?_of_shuffled (regular : record.Regular)
    {alike : String → List Char → List Char → Prop} {members others : List (String × List Char)}
    (shuffled : Shuffled record.keys alike members others)
    (same : ∀ key value other, alike key value other → ∀ progress,
      record.take progress (key, value) = record.take progress (key, other))
    (derives : ∀ member ∈ others, Derives .value member.2) :
    record.ofMembers? others = record.ofMembers? members := by
  obtain ⟨changed, extra, alikes, foreign, perm⟩ := shuffled
  have derivesExtra : ∀ member ∈ extra, Derives .value member.2 := fun member belongs =>
    derives member (perm.mem_iff.mpr (List.mem_append_right _ belongs))
  have taken (progress : Finset String × State) :
      others.foldlM record.take progress = members.foldlM record.take progress := by
    calc
      others.foldlM record.take progress = (changed ++ extra).foldlM record.take progress :=
        foldlM_take_perm regular perm progress
      _ = changed.foldlM record.take progress := by
        rw [List.foldlM_append]
        cases changed.foldlM record.take progress with
        | none => rfl
        | some progress => exact foldlM_take_of_foreign foreign derivesExtra progress
      _ = members.foldlM record.take progress := by
        refine (foldlM_take_congr (alikes.imp ?_) progress).symm
        rintro ⟨key, value⟩ ⟨_, other⟩ ⟨rfl, alike⟩
        exact same key value other alike
  rw [ofMembers?, ofMembers?, taken]

theorem missing?_eq_none_iff {keys : List String} : record.missing? keys = none ↔
    ∀ field ∈ record.fields, field.absence = .required → field.key ∈ keys := by
  simp [missing?]

theorem toOption_readMembers (regular : record.Regular) {members : List (String × List Char)}
    {inner : List Char} (lists : Lists true members inner) (rest : List Char) :
    (record.readMembers (inner ++ '\x7d' :: rest)).toOption =
      (record.ofMembers? members).map fun state => (state, rest) := by
  have enough : members.length < (inner ++ '\x7d' :: rest).length + 1 := by
    have fewer := lists.length_le
    rw [List.length_append]
    omega
  have read := toOption_membersWithin regular lists ([], record.initial) enough rest
  rw [readMembers, toOption_bind, ofMembers?]
  change ((membersWithin record.member _ true ([], record.initial) _).toOption.bind _) = _
  cases taken : (membersWithin record.member ((inner ++ '\x7d' :: rest).length + 1) true
      ([], record.initial) (inner ++ '\x7d' :: rest)).toOption with
  | none =>
      rw [taken, Option.map_none] at read
      have refused : members.foldlM record.take (∅, record.initial) = none :=
        Option.map_eq_none_iff.mp read.symm
      rw [refused]
      rfl
  | some result =>
      rw [taken, Option.map_some] at read
      obtain ⟨progress, made, same⟩ := Option.map_eq_some_iff.mp read.symm
      obtain ⟨⟨keys, state⟩, after⟩ := result
      obtain ⟨rfl, rfl⟩ := Prod.mk.inj same
      have made : members.foldlM record.take (∅, record.initial) = some (seen (keys, state)) := made
      rw [made]
      simp only [Option.bind_some, seen]
      cases missing : record.missing? keys with
      | none =>
          have complete := missing?_eq_none_iff.mp missing
          simp only [← List.mem_toFinset] at complete
          simp only [bind, Option.bind, if_pos complete]
          rfl
      | some field =>
          have incomplete := mt missing?_eq_none_iff.mpr (missing ▸ Option.some_ne_none field)
          simp only [← List.mem_toFinset] at incomplete
          simp only [bind, Option.bind, if_neg incomplete]
          rfl

theorem toOption_read (regular : record.Regular) {members : List (String × List Char)}
    {blanks inner : List Char} (blank : Blank blanks) (lists : Lists true members inner)
    (rest : List Char) :
    (record.read (blanks ++ '\x7b' :: (inner ++ '\x7d' :: rest))).toOption =
      (record.ofMembers? members).map fun state => (state, rest) := by
  rw [← toOption_readMembers regular lists, read, skipBlank_append_cons blank rfl]
  rfl

theorem toOption_read_document (regular : record.Regular) {members : List (String × List Char)}
    {text : List Char} (document : IsDocument members text) :
    ∃ tail, Blank tail ∧
      (record.read text).toOption = (record.ofMembers? members).map fun state => (state, tail) := by
  obtain ⟨lead, object, tail, blank, ⟨inner, lists, rfl⟩, blankTail, rfl⟩ := document
  refine ⟨tail, blankTail, ?_⟩
  rw [← toOption_read regular blank lists]
  simp

theorem exists_lists_of_read (whole : ∀ field ∈ record.fields, Whole field.read)
    {text inner rest : List Char} {state : State} (opened : skipBlank text = '\x7b' :: inner)
    (accepted : record.read text = .ok (state, rest)) :
    ∃ members listed, Lists true members listed ∧ inner = listed ++ '\x7d' :: rest := by
  simp only [read, opened] at accepted
  obtain ⟨⟨⟨keys, final⟩, after⟩, taken, complete⟩ := bind_eq_ok.mp accepted
  obtain ⟨members, listed, lists, -, rfl⟩ :=
    exists_lists_of_membersWithin (wholeMember_member whole) taken
  cases missing : record.missing? keys with
  | some field => simp [missing] at complete
  | none =>
      simp only [missing] at complete
      cases complete
      exact ⟨members, listed, lists, rfl⟩

theorem take_object {Payload : Type} {payload : Record Payload} (regular : payload.Regular)
    {key : String} {absence : Absence} {store : Option Payload → State → State}
    (found : (record.fields.find? fun field => field.key == key) =
      some (.of key absence (optional payload.read) store))
    {members others : List (String × List Char)} {value other : List Char}
    (object : IsObject members value) (otherObject : IsObject others other)
    (shuffled : Shuffled payload.keys (fun _ value other => value = other) members others)
    (progress : Finset String × State) :
    record.take progress (key, value) = record.take progress (key, other) := by
  obtain ⟨inner, lists, rfl⟩ := object
  obtain ⟨otherInner, otherLists, rfl⟩ := otherObject
  have made : payload.ofMembers? others = payload.ofMembers? members :=
    ofMembers?_of_shuffled regular shuffled (fun _ _ _ same _ => by rw [same]) otherLists.value
  have read : (payload.read ('\x7b' :: (inner ++ ['\x7d']))).toOption =
      (payload.read ('\x7b' :: (otherInner ++ ['\x7d']))).toOption := by
    have first := toOption_read regular blank_nil lists []
    have second := toOption_read regular blank_nil otherLists []
    rw [made] at second
    exact first.trans second.symm
  have present (text : List Char) : optional payload.read ('\x7b' :: text) =
      (payload.read ('\x7b' :: text) >>= fun result => .ok (some result.1, result.2)) := rfl
  have field (text : List Char) : (Field.of key absence (optional payload.read) store).read text =
      (optional payload.read text >>= fun result => .ok (store result.1, result.2)) := rfl
  simp only [take, found, field, present, toOption_bind, read]

end Record

end TelemetryRelay.Json
