import Mathlib.Data.List.Nodup
import TelemetryRelay.Proofs.WholeValues

/-!
What a record's text holds, taken apart before any value is read: each key with the text from where
its value begins. A record that is read is assembled from these parts, each field from the part of
its key.
-/

namespace TelemetryRelay.Json

/-- Keys and where their values begin, the last one first. -/
abbrev Parts := List (String × List Char)

def partMember (key : String) (parts : Parts) : Reader Parts := fun text => do
  let value ← colon text
  let rest ← skipValue value
  return ((key, value) :: parts, rest)

def elementParts : Bool → List String → Parts → Reader Parts
  | _, [], parts, text => do
    let rest ← Record.closeList text
    return (parts, rest)
  | first, key :: keys, parts, text => do
    match ← Record.nextElement first text with
    | some value => do
      let rest ← skipValue value
      elementParts false keys ((key, value) :: parts) rest
    | none => elementParts first keys parts text

section

variable {State Other : Type} {member : String → State → Reader State}
  {other : String → Other → Reader Other}

end

/-- What `get` gives of a record is what `reader` reads of the field of a key, and no other field
has a bearing on it. -/
def Field.Decides {State α : Type} (key : String) (reader : Reader α) (get : State → α)
    (field : Field State) : Prop :=
  ∀ text change rest, field.read text = .ok (change, rest) →
    if field.key = key then
      ∃ value, reader text = .ok (value, rest) ∧ ∀ state, get (change state) = value
    else ∀ state, get (change state) = get state

section

variable {State α β : Type} {key : String} {reader : Reader α} {get : State → α}
  {absence : Absence}

end

namespace Record

variable {State : Type} (record : Record State)

def keys : List String := record.fields.map Field.key

def parts : Reader Parts := fun text =>
  match skipBlank text with
  | '\x7b' :: rest => members partMember [] rest
  | '[' :: rest => elementParts true record.keys [] rest
  | _ => .error (.broken .value)

/-- The record that parts give, together with the keys of the fields that have been read. A part
whose key is not that of a field changes nothing. -/
inductive Assembled : Parts → List String → State → Prop
  | nothing : Assembled [] [] record.initial
  | unknown {parts : Parts} {keys : List String} {state : State} (key : String)
      (value : List Char) (foreign : key ∉ record.keys) (before : Assembled parts keys state) :
      Assembled ((key, value) :: parts) keys state
  | known {parts : Parts} {keys : List String} {state : State} {value rest : List Char}
      {change : State → State} (field : Field State) (member : field ∈ record.fields)
      (fresh : field.key ∉ keys) (read : field.read value = .ok (change, rest))
      (before : Assembled parts keys state) :
      Assembled ((field.key, value) :: parts) (field.key :: keys) (change state)

variable {record}

theorem Assembled.get {α : Type} {key : String} {reader : Reader α} {get : State → α}
    {parts : Parts} {keys : List String} {state : State}
    (assembled : record.Assembled parts keys state) (named : key ∈ record.keys)
    (decides : ∀ field ∈ record.fields, field.Decides key reader get) :
    match parts.lookup key with
    | some value => ∃ rest, reader value = .ok (get state, rest)
    | none => key ∉ keys ∧ get state = get record.initial := by
  -- The part that a lookup finds is the one that was read last.
  induction assembled with
  | nothing => exact ⟨List.not_mem_nil, rfl⟩
  | unknown other value foreign before ih =>
      have differ : key ≠ other := by
        rintro rfl
        exact foreign named
      rw [List.lookup_cons, beq_false_of_ne differ]
      exact ih
  | @known parts keys state value rest change field member fresh read before ih =>
      have decided := decides field member _ _ _ read
      by_cases same : field.key = key
      · rw [if_pos same] at decided
        obtain ⟨result, accepted, stored⟩ := decided
        rw [same, List.lookup_cons_self, stored]
        exact ⟨rest, accepted⟩
      · rw [if_neg same] at decided
        rw [List.lookup_cons, beq_false_of_ne (Ne.symm same), decided]
        cases found : parts.lookup key with
        | some value =>
            rw [found] at ih
            exact ih
        | none =>
            rw [found] at ih
            refine ⟨?_, ih.2⟩
            rintro (_ | ⟨_, member⟩)
            · exact same rfl
            · exact ih.1 member

variable (record)

end Record

end TelemetryRelay.Json
