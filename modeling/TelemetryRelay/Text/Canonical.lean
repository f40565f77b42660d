import TelemetryRelay.Text.CombiningClass
import TelemetryRelay.Text.Decomposition

/-!
Canonical composition. Characters are taken apart, the marks of each are put in the order of their
classes, and what can be put together again is. Two ways to write the same text have one result.
-/

namespace TelemetryRelay.Text.Canonical

def isSyllable (code : Nat) : Bool :=
  0xAC00 ≤ code && code ≤ 0xD7A3

def decomposeSyllable (code : Nat) : List Nat :=
  let place := code - 0xAC00
  let front := [0x1100 + place / 588, 0x1161 + place % 588 / 28]
  if place % 28 = 0 then front else front ++ [0x11A7 + place % 28]

def decompose (code : Nat) : List Nat :=
  if code < 0xC0 then [code]
  else if isSyllable code then decomposeSyllable code
  else
    match decompositions.value? code with
    | some decomposition => decomposition.codes
    | none => [code]

/-- Puts a code behind others, of which the last comes first: a mark goes before the marks of
greater class. -/
def place (code : Nat) : List Nat → List Nat
  | [] => [code]
  | last :: before =>
    if combiningClass code ≠ 0 ∧ combiningClass code < combiningClass last then
      last :: place code before
    else code :: last :: before

def order (codes : List Nat) : List Nat :=
  (codes.foldl (fun placed code => place code placed) []).reverse

def composites : Std.TreeMap (List Nat) Nat :=
  decompositions.foldl
    (fun composites code run =>
      if run.value.composes then composites.insert run.value.codes code else composites)
    ∅

def composite? (first second : Nat) : Option Nat :=
  if 0x1100 ≤ first ∧ first ≤ 0x1112 ∧ 0x1161 ≤ second ∧ second ≤ 0x1175 then
    some (0xAC00 + ((first - 0x1100) * 21 + (second - 0x1161)) * 28)
  else if isSyllable first ∧ (first - 0xAC00) % 28 = 0 ∧ 0x11A8 ≤ second ∧ second ≤ 0x11C2 then
    some (first + (second - 0x11A7))
  else composites[decompose first ++ [second]]?

/-- Composes what follows a character with it. `marks` holds the marks between, the last one first;
a mark of the same or a greater class, and every mark before a character, stands in the way. -/
def composeFrom (first : Nat) (marks : List Nat) : List Nat → List Nat
  | [] => first :: marks.reverse
  | code :: rest =>
    let blocked := marks.head?.any fun last => combiningClass code ≤ combiningClass last
    match if blocked then none else composite? first code with
    | some composite => composeFrom composite marks rest
    | none =>
      if combiningClass code = 0 then first :: (marks.reverse ++ composeFrom code [] rest)
      else composeFrom first (code :: marks) rest

def compose : List Nat → List Nat
  | [] => []
  | code :: rest =>
    if combiningClass code = 0 then composeFrom code [] rest else code :: compose rest

def normalize (text : List Char) : List Char :=
  if text.all fun char => char.toNat < 0x300 then text
  else (compose (order (text.flatMap fun char => decompose char.toNat))).map Char.ofNat

end TelemetryRelay.Text.Canonical
