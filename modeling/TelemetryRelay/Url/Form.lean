import TelemetryRelay.Url.Percent

/-!
Form encoding of query pairs: letters, digits and `*-._` stand for themselves, a space is written as
`+`, and the rest is percent-encoded, so neither `&` nor `=` can come from inside a text.
-/

namespace TelemetryRelay.Url.Form

def keeps (char : Char) : Bool :=
  char.isAlphanum || char == '*' || char == '-' || char == '.' || char == '_'

theorem keeps_ne_mark {char : Char} (kept : keeps char = true) : char ≠ '&' ∧ char ≠ '=' := by
  constructor <;> rintro rfl <;> exact absurd kept (by decide)

def encode (text : String) : List Char :=
  text.toList.flatMap fun char => if char = ' ' then ['+'] else Percent.encode keeps [char]

def append (query : Option (List Char)) (key value : String) : List Char :=
  let pair := encode key ++ '=' :: encode value
  match query with
  | none | some [] => pair
  | some query => query ++ '&' :: pair

end TelemetryRelay.Url.Form
