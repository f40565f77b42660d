import TelemetryRelay.Json.Scalar
import TelemetryRelay.Json.Skip

/-!
Objects, and records that are read from them. A record lists its fields in order; it is written as
an object whose members come in any order, unknown ones among them, or as a list of the values in
the order of the fields.
-/

namespace TelemetryRelay.Json

inductive Absence
  | required
  /-- A member may be absent, a list element may not. -/
  | nullable
  | defaulted
deriving DecidableEq, Repr

/-- A field of a record under construction. Reading it gives the change it makes. -/
structure Field (State : Type) where
  key : String
  absence : Absence
  read : Reader (State → State)

structure Record (State : Type) where
  name : String
  fields : List (Field State)
  initial : State

def Field.of {State α : Type} (key : String) (absence : Absence) (read : Reader α)
    (store : α → State → State) : Field State :=
  ⟨key, absence, fun text => do
    let (value, rest) ← read text
    return (store value, rest)⟩

inductive Member
  | key (rest : List Char)
  | closed (rest : List Char)

def nextMember (first : Bool) (text : List Char) : Except Fault Member :=
  match skipBlank text with
  | [] => .error (.unfinished .object)
  | '\x7d' :: rest => .ok (.closed rest)
  | '"' :: rest => if first then .ok (.key rest) else .error (.broken .objectSeparator)
  | ',' :: rest =>
    if first then .error (.broken .key)
    else
      match skipBlank rest with
      | [] => .error (.unfinished .value)
      | '"' :: after => .ok (.key after)
      | '\x7d' :: _ => .error (.broken .trailingComma)
      | _ => .error (.broken .key)
  | _ => .error (.broken (if first then .key else .objectSeparator))

/-- Reads the members of an object up to its end. `member` is given each key with the text after it
and passes over the colon itself. Each member takes characters off the text, so as many members as
there are characters suffice. -/
def membersWithin {State : Type} (member : String → State → Reader State) :
    Nat → Bool → State → Reader State
  | 0, _, _, _ => .error (.unfinished .object)
  | count + 1, first, state, text => do
    match ← nextMember first text with
    | .closed rest => return (state, rest)
    | .key rest =>
      let (key, rest) ← characters rest
      let (state, rest) ← member (String.ofList key) state rest
      membersWithin member count false state rest

def members {State : Type} (member : String → State → Reader State) (state : State) :
    Reader State :=
  fun text => membersWithin member (text.length + 1) true state text

def textMember (key : String) (entries : List (String × String)) :
    Reader (List (String × String)) :=
  fun text => do
    let rest ← colon text
    let (value, rest) ← string rest
    return ((key, value) :: entries, rest)

def texts : Reader (List (String × String)) := fun text =>
  match skipBlank text with
  | '\x7b' :: rest => do
    let (entries, rest) ← members textMember [] rest
    return (entries.reverse, rest)
  | other => .error (mismatch "a map" other)

/-- A value as far as its type shows: what it is, and what the members of an object are. -/
structure Outline where
  found : Found
  members : List (String × Found)
deriving DecidableEq, Repr

def outlineMember (key : String) (entries : List (String × Found)) :
    Reader (List (String × Found)) :=
  fun text => do
    let rest ← colon text
    let found ← found (skipBlank rest)
    let rest ← skipValue rest
    return ((key, found) :: entries, rest)

def outline : Reader Outline := fun text => do
  let found ← found (skipBlank text)
  let entries ←
    match skipBlank text with
    | '\x7b' :: rest => do
      let (entries, _) ← members outlineMember [] rest
      pure entries.reverse
    | _ => pure []
  let rest ← skipValue text
  return (⟨found, entries⟩, rest)

namespace Record

variable {State : Type}

def member (record : Record State) (key : String) (progress : List String × State) :
    Reader (List String × State) := fun text =>
  match record.fields.find? fun field => field.key == key with
  | none => do
    let rest ← colon text
    let rest ← skipValue rest
    return (progress, rest)
  | some field =>
    if progress.1.contains key then .error (.duplicateField key)
    else do
      let rest ← colon text
      let (change, rest) ← field.read rest
      return ((key :: progress.1, change progress.2), rest)

def missing? (record : Record State) (keys : List String) : Option (Field State) :=
  record.fields.find? fun field => field.absence == .required && !keys.contains field.key

def readMembers (record : Record State) : Reader State := fun text => do
  let ((keys, state), rest) ← members record.member ([], record.initial) text
  match record.missing? keys with
  | some field => .error (.missingField field.key)
  | none => return (state, rest)

def nextElement (first : Bool) (text : List Char) : Except Fault (Option (List Char)) :=
  match skipBlank text with
  | [] => .error (.unfinished .list)
  | ']' :: _ => .ok none
  | char :: rest =>
    if first then .ok (some (char :: rest))
    else if char = ',' then
      match skipBlank rest with
      | [] => .error (.unfinished .value)
      | ']' :: _ => .error (.broken .trailingComma)
      | other => .ok (some other)
    else .error (.broken .listSeparator)

def closeList (text : List Char) : Except Fault (List Char) :=
  match skipBlank text with
  | [] => .error (.unfinished .list)
  | ']' :: rest => .ok rest
  | ',' :: rest =>
    match skipBlank rest with
    | ']' :: _ => .error (.broken .trailingComma)
    | _ => .error (.broken .trailingCharacters)
  | _ => .error (.broken .trailingCharacters)

def expected (record : Record State) : String := "struct " ++ record.name

def readElements (record : Record State) (first : Bool) (place : Nat) :
    List (Field State) → State → Reader State
  | [], state, text => do
    let rest ← closeList text
    return (state, rest)
  | field :: fields, state, text => do
    match ← nextElement first text with
    | some rest =>
      let (change, rest) ← field.read rest
      readElements record false (place + 1) fields (change state) rest
    | none =>
      if field.absence = .defaulted then
        readElements record first (place + 1) fields state text
      else
        .error (.tooShort place
          (record.expected ++ " with " ++ toString record.fields.length ++ " elements"))

def read (record : Record State) : Reader State := fun text =>
  match skipBlank text with
  | [] => .error (.unfinished .value)
  | '\x7b' :: rest => record.readMembers rest
  | '[' :: rest => record.readElements true 0 record.fields record.initial rest
  | other => .error (mismatch record.expected other)

end Record

end TelemetryRelay.Json
