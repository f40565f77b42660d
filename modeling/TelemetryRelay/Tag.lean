import TelemetryRelay.Digest.Sha256
import TelemetryRelay.Text.Utf8

/-!
Tags, and the tags of a series. A series keeps its tags as written, `key=value`, in the order in
which they came; their digest does not depend on that order. A tag without a value does not count.
-/

namespace TelemetryRelay

structure Tag where
  key : String
  value : String
deriving DecidableEq, Repr

namespace Tag

def written (tag : Tag) : String :=
  tag.key ++ "=" ++ tag.value

def put (tag : Tag) : List Tag → List Tag
  | [] => [tag]
  | other :: rest => if other.key = tag.key then tag :: rest else other :: put tag rest

/-- Tags with one value for each key, the last one given, in the order of their written form. -/
def canonical (tags : List Tag) : List Tag :=
  (tags.foldl (fun kept tag => put tag kept) []).mergeSort
    fun left right => decide (left.written ≤ right.written)

end Tag

structure Tags where
  written : List String
deriving DecidableEq, Repr

namespace Tags

def empty : Tags := ⟨[]⟩

def of (tags : List Tag) : Tags :=
  ⟨(tags.filter fun tag => tag.value ≠ "").map Tag.written⟩

def isEmpty (tags : Tags) : Bool := tags.written.isEmpty

def size (tags : Tags) : Nat := tags.written.length

def text (tags : Tags) : String :=
  String.intercalate "," tags.written

def sorted (tags : Tags) : List String :=
  tags.written.mergeSort fun left right => decide (left ≤ right)

/-- The digest of the joined digests of the sorted tags. Digests all have one length, so where one
tag ends and the next begins is part of what is digested. -/
def digest (tags : Tags) : Digest :=
  Sha256.hash (tags.sorted.flatMap fun tag => (Sha256.hash (Text.Utf8.encode tag)).bytes)

end Tags

end TelemetryRelay
