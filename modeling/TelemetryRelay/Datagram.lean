import TelemetryRelay.Collector
import TelemetryRelay.Text.Blank

/-!
Datagrams. A datagram that is UTF-8 throughout holds one envelope on each line that is not blank;
lines that are no envelope are reported and passed over. Any other datagram is dropped as a whole.
-/

namespace TelemetryRelay

namespace Datagram

/-- The lines that are not blank, without the blanks at their ends. -/
def lines (bytes : List UInt8) : Except Text.Utf8.Fault (List (List Char)) :=
  match Text.Utf8.decode bytes with
  | .error fault => .error fault
  | .ok text => .ok (((text.splitOn '\n').map Text.trim).filter fun line => !line.isEmpty)

def envelopes (lines : List (List Char)) : List Envelope :=
  lines.filterMap fun line => (Envelope.decode line).toOption

def undecodable? (line : List Char) : Option Notice :=
  match Envelope.decode line with
  | .ok _ => none
  | .error fault => some (.undecodable (String.ofList line) fault)

def envelopeNotices (envelope : Envelope) : List Notice :=
  (if envelope.reportsSlowConsumer then [.messagesDropped, .alertRaised] else []) ++
    envelope.notices

def notices (bytes : List UInt8) : List Notice :=
  match lines bytes with
  | .error fault => [.malformedDatagram fault]
  | .ok lines =>
    let envelopes := envelopes lines
    lines.filterMap undecodable? ++
      if envelopes.isEmpty then []
      else .consuming envelopes.length :: envelopes.flatMap envelopeNotices

end Datagram

namespace Collector

def accept (clock : Int64) (collector : Collector) (envelope : Envelope) : Collector :=
  let alerted :=
    if envelope.reportsSlowConsumer then collector.raiseAlert clock else collector
  alerted.add envelope

/-- Receives a datagram. The clock is read for each envelope: `clock place` is the time at which
the envelope at that place is accepted. -/
def receive (collector : Collector) (clock : Nat → Int64) (bytes : List UInt8) : Collector :=
  match Datagram.lines bytes with
  | .error _ => collector
  | .ok lines =>
    (Datagram.envelopes lines).zipIdx.foldl
      (fun collector (envelope, place) => collector.accept (clock place) envelope) collector

theorem receive_of_fault {bytes : List UInt8} {fault : Text.Utf8.Fault}
    (malformed : Datagram.lines bytes = .error fault) (collector : Collector)
    (clock : Nat → Int64) : collector.receive clock bytes = collector := by
  simp only [receive, malformed]

end Collector

end TelemetryRelay
