import TelemetryRelay.Json.Number

/-!
Readers of single values of a wanted type. A value of another type is itself read first, so a breach
of the grammar inside it is found before the wrong type.
-/

namespace TelemetryRelay.Json

abbrev Reader (α : Type) := List Char → Except Fault (α × List Char)

def Number.found : Number → Found
  | .integer value => .integer value
  | .float value => .float value

/-- What the value is with which `text`, that is not blank at its start, begins. -/
def found (text : List Char) : Except Fault Found :=
  match text with
  | [] => .error (.unfinished .value)
  | 'n' :: rest => do
    let _ ← word ['u', 'l', 'l'] rest
    return .null
  | 't' :: rest => do
    let _ ← word ['r', 'u', 'e'] rest
    return .boolean true
  | 'f' :: rest => do
    let _ ← word ['a', 'l', 's', 'e'] rest
    return .boolean false
  | '"' :: rest => do
    let (chars, _) ← characters rest
    return .string (String.ofList chars)
  | '[' :: _ => .ok .list
  | '\x7b' :: _ => .ok .object
  | char :: _ =>
    if char = '-' ∨ char.isDigit then do
      let (value, _) ← number text
      return value.found
    else .error (.broken .value)

def mismatch (expected : String) (text : List Char) : Fault :=
  match found text with
  | .error fault => fault
  | .ok found => .wrongType found expected

def string : Reader String := fun text =>
  match skipBlank text with
  | '"' :: rest => do
    let (chars, rest) ← characters rest
    return (String.ofList chars, rest)
  | other => .error (mismatch "a string" other)

def boolean : Reader Bool := fun text =>
  match skipBlank text with
  | 't' :: rest => do
    let rest ← word ['r', 'u', 'e'] rest
    return (true, rest)
  | 'f' :: rest => do
    let rest ← word ['a', 'l', 's', 'e'] rest
    return (false, rest)
  | other => .error (mismatch "a boolean" other)

def numeric {α : Type} (expected : String) (accept : Number → Except Fault α) : Reader α :=
  fun text =>
    match skipBlank text with
    | [] => .error (.unfinished .value)
    | char :: rest =>
      if char = '-' ∨ char.isDigit then do
        let (value, after) ← number (char :: rest)
        let accepted ← accept value
        return (accepted, after)
      else .error (mismatch expected (char :: rest))

def within (expected : String) (least greatest : Int) : Number → Except Fault Int
  | .integer value =>
    if least ≤ value ∧ value ≤ greatest then .ok value
    else .error (.wrongValue (.integer value) expected)
  | .float value => .error (.wrongType (.float value) expected)

def int64 : Reader Int64 := fun text => do
  let (value, rest) ← numeric "i64" (within "i64" (-2 ^ 63) (2 ^ 63 - 1)) text
  return (Int64.ofInt value, rest)

def uint64 : Reader UInt64 := fun text => do
  let (value, rest) ← numeric "u64" (within "u64" 0 (2 ^ 64 - 1)) text
  return (UInt64.ofNat value.toNat, rest)

def uint16 : Reader UInt16 := fun text => do
  let (value, rest) ← numeric "u16" (within "u16" 0 (2 ^ 16 - 1)) text
  return (UInt16.ofNat value.toNat, rest)

def float : Reader Binary64 :=
  numeric "f64" fun
    | .integer value => .ok (.ofInt value)
    | .float value => .ok value

def unit : Reader Unit := fun text =>
  match skipBlank text with
  | 'n' :: rest => do
    let rest ← word ['u', 'l', 'l'] rest
    return ((), rest)
  | other => .error (mismatch "unit" other)

def optional {α : Type} (read : Reader α) : Reader (Option α) := fun text =>
  match skipBlank text with
  | 'n' :: rest => do
    let rest ← word ['u', 'l', 'l'] rest
    return (none, rest)
  | other => do
    let (value, rest) ← read other
    return (some value, rest)

def finish (text : List Char) : Except Fault Unit :=
  match skipBlank text with
  | [] => .ok ()
  | _ => .error (.broken .trailingCharacters)

end TelemetryRelay.Json
