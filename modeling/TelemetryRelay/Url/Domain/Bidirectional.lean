import TelemetryRelay.Text.Direction

/-!
Names in two directions. A label is written from left to right or from right to left, as its first
letter has it. If some label of a name has letters or numbers of the second kind, every label must
keep to the characters of its direction and end in a way that does not change place on a screen.
-/

namespace TelemetryRelay.Url.Domain

open Text (Direction)

def turns : Direction → Bool
  | .right | .arabicLetter | .arabicNumber => true
  | _ => false

def isWeak : Direction → Bool
  | .europeanNumber | .europeanSeparator | .europeanTerminator | .commonSeparator
  | .nonspacingMark | .boundary | .neutral => true
  | _ => false

def lastDirection? (directions : List Direction) : Option Direction :=
  (directions.reverse.dropWhile (· = .nonspacingMark)).head?

def fitsLeft (directions : List Direction) : Bool :=
  (directions.all fun direction => direction == .left || isWeak direction) &&
    (lastDirection? directions).any fun last => last == .left || last == .europeanNumber

def fitsRight (directions : List Direction) : Bool :=
  (directions.all fun direction => turns direction || isWeak direction) &&
    ((lastDirection? directions).any fun last => turns last || last == .europeanNumber) &&
    !(directions.contains .europeanNumber && directions.contains .arabicNumber)

def fits (directions : List Direction) : Bool :=
  match directions with
  | [] => true
  | .left :: _ => fitsLeft directions
  | .right :: _ | .arabicLetter :: _ => fitsRight directions
  | _ => false

/-- Whether the labels of a name can stand together. No character before the Hebrew ones turns the
direction. -/
def directionsFit (labels : List (List Char)) : Bool :=
  if labels.all fun label => label.all fun char => char.toNat < 0x590 then true
  else
    let directions := labels.map fun label => label.map Text.direction
    !(directions.any fun label => label.any turns) || directions.all fits

end TelemetryRelay.Url.Domain
