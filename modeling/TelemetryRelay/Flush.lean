import TelemetryRelay.Collector
import TelemetryRelay.Delivery
import TelemetryRelay.Line

/-!
Flushing. A flush detaches the pending batch with the internal series brought up to date, and ends
with the answer to its write. A delivered batch is counted; an undelivered one goes back in front of
what arrived in the meantime.
-/

namespace TelemetryRelay

structure Flush where
  now : Int64
  batch : Batch

namespace Flush

def payload (flush : Flush) (lead : String) : Payload :=
  flush.batch.payload lead flush.now

def request (flush : Flush) (endpoint : Endpoint) (lead : String) : Request :=
  endpoint.request (flush.payload lead).text

def result (flush : Flush) (answer : Answer) : Except DeliveryFailure Nat :=
  match answer.outcome with
  | .ok _ => .ok flush.batch.size
  | .error failure => .error failure

end Flush

namespace Collector

def beginFlush (collector : Collector) (now : Int64) : Flush × Collector :=
  let (batch, rest) := (collector.refresh now).detach
  (⟨now, batch⟩, rest)

def endFlush (collector : Collector) (flush : Flush) (answer : Answer) : Collector :=
  match flush.result answer with
  | .ok count => collector.countSent (UInt64.ofNat count)
  | .error _ => collector.reattach flush.batch

end Collector

end TelemetryRelay
