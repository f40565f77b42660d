import TelemetryRelay.Binary64
import TelemetryRelay.Tag

/-!
Envelopes, the units of the telemetry stream. Two types of event carry a payload, and an envelope of
such a type always has its payload.
-/

namespace TelemetryRelay

inductive EventType
  | httpStartStop
  | logMessage
  | valueMetric
  | counterEvent
  | error
  | containerMetric
  | unknown
deriving DecidableEq, Repr

namespace EventType

def name : EventType → String
  | .httpStartStop => "HttpStartStop"
  | .logMessage => "LogMessage"
  | .valueMetric => "ValueMetric"
  | .counterEvent => "CounterEvent"
  | .error => "Error"
  | .containerMetric => "ContainerMetric"
  | .unknown => "Unknown"

def all : List EventType :=
  [.httpStartStop, .logMessage, .valueMetric, .counterEvent, .error, .containerMetric, .unknown]

def ofName (name : String) : EventType :=
  (all.find? fun type => type.name == name).getD .unknown

end EventType

structure ValueMetric where
  name : String
  value : Binary64
  unit : String
deriving DecidableEq, Repr

structure CounterEvent where
  name : String
  delta : UInt64
  total : UInt64
deriving DecidableEq, Repr

inductive Event
  | valueMetric (metric : ValueMetric)
  | counterEvent (counter : CounterEvent)
  | other (type : EventType)
deriving DecidableEq, Repr

def Event.type : Event → EventType
  | .valueMetric _ => .valueMetric
  | .counterEvent _ => .counterEvent
  | .other type => type

/-- The time stamp counts nanoseconds. The tags are the free-form ones, in the order in which they
are enumerated. -/
structure Envelope where
  origin : Option String
  timestamp : Int64
  deployment : Option String
  job : Option String
  index : Option String
  ip : Option String
  tags : List Tag
  event : Event
deriving DecidableEq, Repr

namespace Envelope

def type (envelope : Envelope) : EventType := envelope.event.type

def originText (envelope : Envelope) : String := envelope.origin.getD ""

def fixedTags (envelope : Envelope) : List Tag :=
  [
    ⟨"deployment", envelope.deployment.getD ""⟩,
    ⟨"job", envelope.job.getD ""⟩,
    ⟨"index", envelope.index.getD ""⟩,
    ⟨"ip", envelope.ip.getD ""⟩
  ]

def seriesTags (envelope : Envelope) : Tags :=
  .of (envelope.fixedTags ++ envelope.tags)

def slowConsumerOrigin : String := "doppler"

def slowConsumerCounter : String := "TruncatingBuffer.DroppedMessages"

def reportsSlowConsumer (envelope : Envelope) : Bool :=
  match envelope.event with
  | .counterEvent counter =>
    counter.name == slowConsumerCounter && envelope.originText == slowConsumerOrigin
  | _ => false

end Envelope

end TelemetryRelay
