import TelemetryRelay.Url.Domain.Bidirectional
import TelemetryRelay.Url.Domain.Label

/-!
Host names in ASCII form. The characters of a name are first read as the plain ones they stand for
and composed; then the name is cut into its labels, each of which is checked and written by itself.
Only the direction of writing is a matter of the whole name.
-/

namespace TelemetryRelay.Url.Domain

def labels? (name : List Char) : Option (List Label) := do
  let read ← name.mapM map?
  let text := Text.Canonical.normalize read.flatten
  if text.any isForbidden then none
  let labels ← (text.splitOn '.').mapM Label.ofText?
  if directionsFit (labels.map Label.text) then some labels else none

def toAscii? (name : List Char) : Option (List Char) :=
  (labels? name).map fun labels => ['.'].intercalate (labels.map Label.written)

end TelemetryRelay.Url.Domain
