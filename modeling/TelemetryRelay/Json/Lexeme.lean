import TelemetryRelay.Json.Fault
import TelemetryRelay.Text.Hex

/-!
The smallest pieces of a JSON text: blanks, words and strings. A reader takes the text that is left
and gives what it read together with the text that follows. Strings come in two readings, one that
gives the characters and one that only checks the form; the second also passes surrogates that
stand alone.
-/

namespace TelemetryRelay.Json

-- The empty sum is the numeral, also where another zero is in scope.
attribute [local instance (high)] Zero.ofOfNat0

def isBlank (char : Char) : Bool :=
  char == ' ' || char == '\t' || char == '\n' || char == '\r'

def skipBlank (text : List Char) : List Char :=
  text.dropWhile isBlank

def word : List Char → List Char → Except Fault (List Char)
  | [], text => .ok text
  | _ :: _, [] => .error (.unfinished .value)
  | letter :: letters, char :: text =>
    if char = letter then word letters text else .error (.broken .word)

def codeUnit? (first second third fourth : Char) : Option Nat := do
  let first ← Text.Hex.value? first
  let second ← Text.Hex.value? second
  let third ← Text.Hex.value? third
  let fourth ← Text.Hex.value? fourth
  return ((first * 16 + second) * 16 + third) * 16 + fourth

/-- The fault of a `\u` that fewer than four characters follow: the text ends inside the escape if
they are also fewer than four bytes. -/
def shortEscape (text : List Char) : Fault :=
  if (text.map Char.utf8Size).sum < 4 then .unfinished .string else .broken .escape

def escaped? (letter : Char) : Option Char :=
  if letter = '"' ∨ letter = '\\' ∨ letter = '/' then some letter
  else if letter = 'b' then some '\x08'
  else if letter = 'f' then some '\x0c'
  else if letter = 'n' then some '\n'
  else if letter = 'r' then some '\r'
  else if letter = 't' then some '\t'
  else none

def isLeadSurrogate (unit : Nat) : Bool := 0xD800 ≤ unit && unit ≤ 0xDBFF

def isTrailSurrogate (unit : Nat) : Bool := 0xDC00 ≤ unit && unit ≤ 0xDFFF

def surrogatePair (lead trail : Nat) : Char :=
  Char.ofNat ((lead - 0xD800) * 0x400 + (trail - 0xDC00) + 0x10000)

def characters : List Char → Except Fault (List Char × List Char)
  | [] => .error (.unfinished .string)
  | '\\' :: 'u' :: first :: second :: third :: fourth :: rest =>
    match codeUnit? first second third fourth with
    | none => .error (.broken .escape)
    | some unit =>
      if isTrailSurrogate unit then .error (.broken .loneSurrogate)
      else if isLeadSurrogate unit then
        match rest with
        | '\\' :: 'u' :: fifth :: sixth :: seventh :: eighth :: after =>
          match codeUnit? fifth sixth seventh eighth with
          | none => .error (.broken .escape)
          | some trail =>
            if isTrailSurrogate trail then do
              let (chars, text) ← characters after
              return (surrogatePair unit trail :: chars, text)
            else .error (.broken .loneSurrogate)
        | '\\' :: 'u' :: short => .error (shortEscape short)
        | [] | ['\\'] => .error (.unfinished .string)
        | _ => .error (.broken .unpairedSurrogate)
      else do
        let (chars, text) ← characters rest
        return (Char.ofNat unit :: chars, text)
  | '\\' :: 'u' :: short => .error (shortEscape short)
  | ['\\'] => .error (.unfinished .string)
  | '\\' :: letter :: rest =>
    match escaped? letter with
    | none => .error (.broken .escape)
    | some char => do
      let (chars, text) ← characters rest
      return (char :: chars, text)
  | char :: rest =>
    if char = '"' then .ok ([], rest)
    else if char.toNat < 0x20 then .error (.broken .controlCharacter)
    else do
      let (chars, text) ← characters rest
      return (char :: chars, text)

def skipCharacters : List Char → Except Fault (List Char)
  | [] => .error (.unfinished .string)
  | '\\' :: 'u' :: first :: second :: third :: fourth :: rest =>
    if (codeUnit? first second third fourth).isSome then skipCharacters rest
    else .error (.broken .escape)
  | '\\' :: 'u' :: short => .error (shortEscape short)
  | ['\\'] => .error (.unfinished .string)
  | '\\' :: letter :: rest =>
    if (escaped? letter).isSome then skipCharacters rest else .error (.broken .escape)
  | char :: rest =>
    if char = '"' then .ok rest
    else if char.toNat < 0x20 then .error (.broken .controlCharacter)
    else skipCharacters rest

end TelemetryRelay.Json
