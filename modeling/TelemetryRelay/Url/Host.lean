import TelemetryRelay.Text.Utf8
import TelemetryRelay.Url.Domain
import TelemetryRelay.Url.Percent

/-!
Hosts of URLs, each read into the one form in which it is written: a name in ASCII, an IPv4 address
as four decimal numbers, an IPv6 address in its compressed form between brackets.
-/

namespace TelemetryRelay.Url

inductive Fault
  | relative
  | emptyHost
  | domain
  | opaqueHost
  | port
  | ipv4
  | ipv6
  | scheme
deriving DecidableEq, Repr

def Fault.message : Fault → String
  | .relative => "relative URL without a base"
  | .emptyHost => "empty host"
  | .domain => "invalid international domain name"
  | .opaqueHost => "invalid domain character"
  | .port => "invalid port number"
  | .ipv4 => "invalid IPv4 address"
  | .ipv6 => "invalid IPv6 address"
  | .scheme => "expected an http or https URL"

namespace Host

def natural? (base : Nat) (digits : List Char) : Option Nat :=
  digits.foldlM
    (fun value char => do
      let digit ← Text.Hex.value? char
      if digit < base then some (value * base + digit) else none)
    0

/-- A number of an IPv4 address: hexadecimal after `0x`, octal after `0`, decimal otherwise. -/
def ipv4Number? (text : List Char) : Option Nat :=
  match text with
  | [] => none
  | '0' :: 'x' :: digits | '0' :: 'X' :: digits => natural? 16 digits
  | '0' :: digits => natural? 8 digits
  | digits => natural? 10 digits

def parts (name : List Char) : List (List Char) :=
  let labels := name.splitOn '.'
  if labels.getLast? = some [] then labels.dropLast else labels

/-- A name whose last label is a number has to be an IPv4 address. -/
def endsInNumber (name : List Char) : Bool :=
  match (parts name).getLast? with
  | none => false
  | some last => (!last.isEmpty && last.all Char.isDigit) || (ipv4Number? last).isSome

/-- The address of some numbers: all but the last fill one byte each, the last fills the rest. -/
def ipv4Address? (numbers : List Nat) : Option Nat :=
  match numbers.reverse with
  | [] => none
  | last :: reversed =>
    let bytes := reversed.reverse
    if 4 ≤ bytes.length ∨ 256 ^ (4 - bytes.length) ≤ last ∨ bytes.any (255 < ·) then none
    else
      let front := bytes.foldl (fun value byte => value * 256 + byte) 0
      some (front * 256 ^ (4 - bytes.length) + last)

def ipv4? (name : List Char) : Option Nat := do
  let numbers ← (parts name).mapM ipv4Number?
  ipv4Address? numbers

def decimal (number : Nat) : List Char := Nat.toDigits 10 number

def renderIpv4 (address : Nat) : List Char :=
  ['.'].intercalate
    [decimal (address / 16777216), decimal (address / 65536 % 256), decimal (address / 256 % 256),
      decimal (address % 256)]

def groups (text : List Char) : List (List Char) :=
  if text.isEmpty then [] else text.splitOn ':'

def dottedByte? (text : List Char) : Option Nat :=
  match text with
  | [] => none
  | '0' :: _ :: _ => none
  | digits =>
    if digits.length ≤ 3 then (natural? 10 digits).filter fun byte => byte ≤ 255 else none

def dottedPieces? (text : List Char) : Option (List Nat) := do
  match ← (text.splitOn '.').mapM dottedByte? with
  | [first, second, third, fourth] => some [first * 256 + second, third * 256 + fourth]
  | _ => none

def piece? (text : List Char) : Option Nat :=
  if text.isEmpty ∨ 4 < text.length then none else natural? 16 text

def pieces? : List (List Char) → Option (List Nat)
  | [] => some []
  | [last] =>
    if last.contains '.' then dottedPieces? last else (piece? last).map fun piece => [piece]
  | group :: rest => do
    let piece ← piece? group
    let others ← pieces? rest
    return piece :: others

def cut : List Char → Option (List Char × List Char)
  | [] => none
  | ':' :: ':' :: rest => some ([], rest)
  | char :: rest => (cut rest).map fun (before, after) => (char :: before, after)

/-- The eight pieces of an IPv6 address. Two colons in a row stand for one or more zero pieces. -/
def ipv6? (text : List Char) : Option (List Nat) := do
  match cut text with
  | none =>
    let pieces ← pieces? (groups text)
    if pieces.length = 8 then some pieces else none
  | some (before, after) =>
    let left ← (groups before).mapM piece?
    let right ← pieces? (groups after)
    if left.length + right.length ≤ 7 then
      some (left ++ List.replicate (8 - left.length - right.length) 0 ++ right)
    else none

def zeros (pieces : List Nat) : Nat := (pieces.takeWhile (· = 0)).length

def longestZeros (pieces : List Nat) : Option (Nat × Nat) :=
  (List.range pieces.length).foldl
    (fun best place =>
      let length := zeros (pieces.drop place)
      match best with
      | none => if 2 ≤ length then some (place, length) else none
      | some (_, longest) => if longest < length then some (place, length) else best)
    none

def renderPieces (pieces : List Nat) : List Char :=
  [':'].intercalate (pieces.map fun piece => Nat.toDigits 16 piece)

def renderIpv6 (pieces : List Nat) : List Char :=
  let body :=
    match longestZeros pieces with
    | none => renderPieces pieces
    | some (place, length) =>
      renderPieces (pieces.take place) ++ ':' :: ':' :: renderPieces (pieces.drop (place + length))
  '[' :: (body ++ [']'])

def bracketed (text : List Char) : Except Fault (List Char) :=
  match text.reverse with
  | ']' :: reversed =>
    match ipv6? reversed.reverse with
    | some pieces => .ok (renderIpv6 pieces)
    | none => .error .ipv6
  | _ => .error .ipv6

def read (text : List Char) : Except Fault (List Char) :=
  match text with
  | '[' :: rest => bracketed rest
  | _ =>
    match Text.Utf8.decode (Percent.decode text) with
    | .error _ => .error .domain
    | .ok name =>
      match Domain.toAscii? name with
      | none => .error .domain
      | some ascii =>
        if ascii.isEmpty then .error .emptyHost
        else if endsInNumber ascii then
          match ipv4? ascii with
          | some address => .ok (renderIpv4 address)
          | none => .error .ipv4
        else .ok ascii

def isForbidden (char : Char) : Bool :=
  char == Char.ofNat 0 || "\t\n\r #/:<>?@[\\]^|".toList.contains char

def check (text : List Char) : Except Fault Unit :=
  match text with
  | '[' :: rest => do
    let _ ← bracketed rest
  | _ => if text.any isForbidden then .error .opaqueHost else .ok ()

end Host

end TelemetryRelay.Url
