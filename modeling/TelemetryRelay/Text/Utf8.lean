/-!
UTF-8 as a machine that reads one byte at a time. `fault?` finds the first place where a byte string
stops being UTF-8, `decode` reads a byte string that has no such place, and `decodeLossy` reads
every byte string, a replacement character standing for each maximal malformed piece.
-/

namespace TelemetryRelay.Text.Utf8

inductive State
  | start
  /-- Inside a character: the bytes read so far, the bytes still owed, the bounds on the next one,
  and the bits collected. -/
  | inside (seen owed low high bits : Nat)
deriving DecidableEq, Repr

inductive Step
  | more (state : State)
  | char (char : Char)
  /-- The first `length` bytes of the character begun are malformed; this byte is one of them only
  if it began the character. -/
  | broken (length : Nat)

def step : State → Nat → Step
  | .start, byte =>
    if byte < 0x80 then .char (Char.ofNat byte)
    else if 0xC2 ≤ byte ∧ byte ≤ 0xDF then .more (.inside 1 1 0x80 0xBF (byte % 32))
    else if byte = 0xE0 then .more (.inside 1 2 0xA0 0xBF 0)
    else if byte = 0xED then .more (.inside 1 2 0x80 0x9F 13)
    else if 0xE1 ≤ byte ∧ byte ≤ 0xEF then .more (.inside 1 2 0x80 0xBF (byte % 16))
    else if byte = 0xF0 then .more (.inside 1 3 0x90 0xBF 0)
    else if 0xF1 ≤ byte ∧ byte ≤ 0xF3 then .more (.inside 1 3 0x80 0xBF (byte % 8))
    else if byte = 0xF4 then .more (.inside 1 3 0x80 0x8F 4)
    else .broken 1
  | .inside seen owed low high bits, byte =>
    if low ≤ byte ∧ byte ≤ high then
      let bits := bits * 64 + byte % 64
      if owed ≤ 1 then .char (Char.ofNat bits)
      else .more (.inside (seen + 1) (owed - 1) 0x80 0xBF bits)
    else .broken seen

inductive Fault
  | malformed (length index : Nat)
  | incomplete (index : Nat)
deriving DecidableEq, Repr

def Fault.message : Fault → String
  | .malformed length index =>
    "invalid utf-8 sequence of " ++ toString length ++ " bytes from index " ++ toString index
  | .incomplete index => "incomplete utf-8 byte sequence from index " ++ toString index

def faultFrom (index : Nat) : State → List UInt8 → Option Fault
  | .start, [] => none
  | .inside seen _ _ _ _, [] => some (.incomplete (index - seen))
  | state, byte :: rest =>
    match step state byte.toNat with
    | .more next => faultFrom (index + 1) next rest
    | .char _ => faultFrom (index + 1) .start rest
    | .broken length =>
      match state with
      | .start => some (.malformed length index)
      | .inside seen _ _ _ _ => some (.malformed length (index - seen))

def fault? (bytes : List UInt8) : Option Fault :=
  faultFrom 0 .start bytes

def replacement : Char := Char.ofNat 0xFFFD

def charsFrom : State → List UInt8 → List Char
  | .start, [] => []
  | .inside _ _ _ _ _, [] => [replacement]
  | state, byte :: rest =>
    match step state byte.toNat with
    | .more next => charsFrom next rest
    | .char char => char :: charsFrom .start rest
    | .broken _ =>
      match state with
      | .start => replacement :: charsFrom .start rest
      | .inside _ _ _ _ _ =>
        match step .start byte.toNat with
        | .more next => replacement :: charsFrom next rest
        | .char char => replacement :: char :: charsFrom .start rest
        | .broken _ => replacement :: replacement :: charsFrom .start rest

/-- Reads any byte string; each maximal malformed piece becomes one replacement character. -/
def decodeLossy (bytes : List UInt8) : List Char :=
  charsFrom .start bytes

def decode (bytes : List UInt8) : Except Fault (List Char) :=
  match fault? bytes with
  | some fault => .error fault
  | none => .ok (decodeLossy bytes)

def encode (text : String) : List UInt8 :=
  text.toList.flatMap String.utf8EncodeChar

end TelemetryRelay.Text.Utf8
