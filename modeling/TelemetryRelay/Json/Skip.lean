import TelemetryRelay.Json.Number

/-!
Passing over a value of any type and any depth. Only the form is checked. The open lists and objects
are kept on a stack, so the depth costs no recursion.
-/

namespace TelemetryRelay.Json

inductive Frame
  | list
  | object
deriving DecidableEq, Repr

def colon (text : List Char) : Except Fault (List Char) :=
  match skipBlank text with
  | [] => .error (.unfinished .object)
  | ':' :: rest => .ok rest
  | _ => .error (.broken .colon)

def skipKey (text : List Char) : Except Fault (List Char) :=
  match skipBlank text with
  | [] => .error (.unfinished .object)
  | '"' :: rest => do
    let rest ← skipCharacters rest
    colon rest
  | _ => .error (.broken .key)

def skipScalar (text : List Char) : Except Fault (List Char) :=
  match text with
  | [] => .error (.unfinished .value)
  | 'n' :: rest => word ['u', 'l', 'l'] rest
  | 't' :: rest => word ['r', 'u', 'e'] rest
  | 'f' :: rest => word ['a', 'l', 's', 'e'] rest
  | '"' :: rest => skipCharacters rest
  | char :: _ =>
    if char = '-' ∨ char.isDigit then skipNumber text else .error (.broken .value)

mutual

/-- A value is due; `frames` are the lists and objects it lies in. Each step takes a character off
the text, so as many steps as there are characters suffice. -/
def skipValueWithin : Nat → List Frame → List Char → Except Fault (List Char)
  | 0, _, _ => .error (.unfinished .value)
  | steps + 1, frames, text =>
    match skipBlank text with
    | '[' :: rest =>
      match skipBlank rest with
      | [] => .error (.unfinished .list)
      | ']' :: after => skipRestWithin steps frames after
      | _ => skipValueWithin steps (.list :: frames) rest
    | '\x7b' :: rest =>
      match skipBlank rest with
      | '\x7d' :: after => skipRestWithin steps frames after
      | _ => do
        let rest ← skipKey rest
        skipValueWithin steps (.object :: frames) rest
    | scalar => do
      let rest ← skipScalar scalar
      skipRestWithin steps frames rest

def skipRestWithin : Nat → List Frame → List Char → Except Fault (List Char)
  | _, [], text => .ok text
  | 0, _ :: _, _ => .error (.unfinished .value)
  | steps + 1, .list :: frames, text =>
    match skipBlank text with
    | [] => .error (.unfinished .list)
    | ',' :: rest => skipValueWithin steps (.list :: frames) rest
    | ']' :: rest => skipRestWithin steps frames rest
    | _ => .error (.broken .listSeparator)
  | steps + 1, .object :: frames, text =>
    match skipBlank text with
    | [] => .error (.unfinished .object)
    | ',' :: rest => do
      let rest ← skipKey rest
      skipValueWithin steps (.object :: frames) rest
    | '\x7d' :: rest => skipRestWithin steps frames rest
    | _ => .error (.broken .objectSeparator)

end

def skipValue (text : List Char) : Except Fault (List Char) :=
  skipValueWithin (text.length + 1) [] text

end TelemetryRelay.Json
