import TelemetryRelay.Decimal.Layout
import TelemetryRelay.Envelope.Decode

/-!
What the relay reports about its work.
-/

namespace TelemetryRelay

inductive Level
  | trace
  | debug
  | warning
  | error
deriving DecidableEq, Repr

inductive Notice
  /-- An envelope without a measurement was counted and passed over. -/
  | ignored (type : EventType)
  /-- A value that is no finite number was dropped. -/
  | dropped (value : Binary64) (name : String)
  | alertRaised
  | consuming (count : Nat)
  | undecodable (line : String) (fault : Envelope.Fault)
  | messagesDropped
  | malformedDatagram (fault : Text.Utf8.Fault)
  | unusableVariable (name value : String)
deriving DecidableEq, Repr

namespace Notice

def level : Notice → Level
  | .ignored _ => .trace
  | .dropped _ _ => .warning
  | .alertRaised => .debug
  | .consuming _ => .debug
  | .undecodable _ _ => .error
  | .messagesDropped => .warning
  | .malformedDatagram _ => .warning
  | .unusableVariable _ _ => .warning

def message : Notice → String
  | .ignored type => "Ignoring " ++ type.name ++ " envelope"
  | .dropped value name =>
    "Dropping non-finite value " ++ Decimal.Layout.value.render value ++ " for " ++ name
  | .alertRaised => "Slow consumer alert raised"
  | .consuming count => "Consuming " ++ toString count ++ " envelopes"
  | .undecodable line fault => "Failed to decode envelope " ++ line ++ ": " ++ fault.message
  | .messagesDropped =>
    "Firehose is dropping messages for this consumer, raising slow consumer alert"
  | .malformedDatagram fault => "Dropping non UTF-8 datagram: " ++ fault.message
  | .unusableVariable name value =>
    "Ignoring " ++ name ++ ": unable to parse '" ++ value ++ "'"

end Notice

end TelemetryRelay
