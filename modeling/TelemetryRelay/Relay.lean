import TelemetryRelay.Datagram
import TelemetryRelay.Flush

/-!
A relay: a collector with at most one flush in flight, and what can happen to it. Whatever arrives
while the flush is in flight is collected beside it.
-/

namespace TelemetryRelay

inductive Arrival
  | envelope (envelope : Envelope)
  | alert (now : Int64)
  | datagram (clock : Nat → Int64) (bytes : List UInt8)

namespace Collector

def arrive (collector : Collector) : Arrival → Collector
  | .envelope envelope => collector.add envelope
  | .alert now => collector.raiseAlert now
  | .datagram clock bytes => collector.receive clock bytes

def gather (collector : Collector) (arrivals : List Arrival) : Collector :=
  arrivals.foldl arrive collector

end Collector

inductive Occurrence
  | arrival (arrival : Arrival)
  | beginFlush (now : Int64)
  | endFlush (answer : Answer)

namespace Occurrence

def envelope (envelope : Envelope) : Occurrence := .arrival (.envelope envelope)

def alert (now : Int64) : Occurrence := .arrival (.alert now)

def datagram (clock : Int64) (bytes : List UInt8) : Occurrence :=
  .arrival (.datagram (fun _ => clock) bytes)

end Occurrence

structure Relay where
  collector : Collector
  inFlight : Option Flush

namespace Relay

def fresh (deployment address : String) : Relay :=
  ⟨.fresh deployment address, none⟩

/-- A flush waits for the one in flight to end, so a second one does not begin beside it. -/
def step (relay : Relay) : Occurrence → Relay
  | .arrival arrival => { relay with collector := relay.collector.arrive arrival }
  | .beginFlush now =>
    match relay.inFlight with
    | some _ => relay
    | none =>
      let (flush, collector) := relay.collector.beginFlush now
      ⟨collector, some flush⟩
  | .endFlush answer =>
    match relay.inFlight with
    | some flush => ⟨relay.collector.endFlush flush answer, none⟩
    | none => relay

def run (relay : Relay) (occurrences : List Occurrence) : Relay :=
  occurrences.foldl step relay

theorem run_append (relay : Relay) (first second : List Occurrence) :
    relay.run (first ++ second) = (relay.run first).run second :=
  List.foldl_append

end Relay

end TelemetryRelay
