import TelemetryRelay.Text.Canonical
import TelemetryRelay.Text.Joining
import TelemetryRelay.Text.Mark
import TelemetryRelay.Url.Domain.Mapping
import TelemetryRelay.Url.Punycode

/-!
Labels, the pieces of a host name. A label beyond ASCII is written in Punycode after `xn--`. A label
that comes in this form must be one that reading its characters would have given.
-/

namespace TelemetryRelay.Url.Domain

def isForbidden (char : Char) : Bool :=
  char.toNat ≤ 0x20 || char.toNat == 0x7F || "%#/:<>?@[\\]^|".toList.contains char

def isAscii (text : List Char) : Bool :=
  text.all fun char => char.toNat < 0x80

def joins (ways : List Text.Joining) (text : List Char) : Bool :=
  match (text.map Text.joining?).dropWhile (· = some .transparent) with
  | some way :: _ => ways.contains way
  | _ => false

def joiner : Char := Char.ofNat 0x200D

def nonJoiner : Char := Char.ofNat 0x200C

/-- Whether a joiner or non-joiner has its place between two texts, the first given from its last
character on. Both may follow a virama; a non-joiner may also keep apart two letters that would
join. -/
def joinerFits (char : Char) (before after : List Char) : Bool :=
  match before with
  | [] => false
  | last :: _ =>
    Text.combiningClass last.toNat == Text.viramaClass ||
      (char == nonJoiner && joins [.after, .both] before && joins [.before, .both] after)

def joinersFit (before : List Char) : List Char → Bool
  | [] => true
  | char :: after =>
    ((char != joiner && char != nonJoiner) || joinerFits char before after) &&
      joinersFit (char :: before) after

def longest : Nat := 1000

def isWellFormed (text : List Char) : Bool :=
  !(text.head?.any Text.isMark) && joinersFit [] text && text.length ≤ longest

def isSettled (text : List Char) : Bool :=
  (text.all fun char => map? char == some [char] && !isForbidden char && char != '.') &&
    Text.Canonical.normalize text == text

structure Label where
  text : List Char
  written : List Char
deriving DecidableEq, Repr

namespace Label

def longestWritten : Nat := 2000

def ofPunycode? (code : List Char) : Option Label :=
  if !isAscii code || longestWritten < code.length then none
  else
    match Punycode.decode code with
    | none => none
    | some text =>
      if isAscii text || !isSettled text || !isWellFormed text ||
          "xn--".toList.isPrefixOf text then none
      else some ⟨text, "xn--".toList ++ code⟩

def ofText? (text : List Char) : Option Label :=
  match text with
  | 'x' :: 'n' :: '-' :: '-' :: code => ofPunycode? code
  | _ =>
    if isAscii text then some ⟨text, text⟩
    else if isWellFormed text then some ⟨text, "xn--".toList ++ Punycode.encode text⟩
    else none

end Label

end TelemetryRelay.Url.Domain
