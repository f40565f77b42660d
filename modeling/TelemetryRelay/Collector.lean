import TelemetryRelay.Batch
import TelemetryRelay.Notice

/-!
A collector gathers samples into a pending batch and counts what it has received and what has
been sent. Its own three series are internal: each holds one current point.
-/

namespace TelemetryRelay

inductive InternalMetric
  | messagesReceived
  | metricsSent
  | slowConsumerAlert
deriving DecidableEq, Repr

def InternalMetric.name : InternalMetric → String
  | .messagesReceived => "totalMessagesReceived"
  | .metricsSent => "totalMetricsSent"
  | .slowConsumerAlert => "slowConsumerAlert"

structure Collector where
  batch : Batch
  internalTags : Tags
  received : UInt64
  sent : UInt64

namespace Collector

def fresh (deployment address : String) : Collector where
  batch := ∅
  internalTags := .of [⟨"ip", address⟩, ⟨"deployment", deployment⟩]
  received := 0
  sent := 0

def add (collector : Collector) (envelope : Envelope) : Collector where
  batch :=
    match envelope.sample? with
    | some sample => collector.batch.record sample
    | none => collector.batch
  internalTags := collector.internalTags
  received := collector.received + 1
  sent := collector.sent

@[simp] theorem received_add (collector : Collector) (envelope : Envelope) :
    (collector.add envelope).received = collector.received + 1 := rfl

@[simp] theorem sent_add (collector : Collector) (envelope : Envelope) :
    (collector.add envelope).sent = collector.sent := rfl

@[simp] theorem internalTags_add (collector : Collector) (envelope : Envelope) :
    (collector.add envelope).internalTags = collector.internalTags := rfl

def internalKey (collector : Collector) (name : String) : SeriesId :=
  .of .internal name collector.internalTags

def setInternal (collector : Collector) (metric : InternalMetric) (value : UInt64)
    (now : Int64) : Collector :=
  let series : Series := ⟨collector.internalTags, [⟨now, .ofNat value.toNat⟩]⟩
  { collector with batch := collector.batch.insert (collector.internalKey metric.name) series }

def raiseAlert (collector : Collector) (now : Int64) : Collector :=
  collector.setInternal .slowConsumerAlert 1 now

/-- Brings the internal series up to date; an alert that has been raised is kept. -/
def refresh (collector : Collector) (now : Int64) : Collector :=
  let counted := (collector.setInternal .messagesReceived collector.received now).setInternal
    .metricsSent collector.sent now
  if counted.batch.contains (counted.internalKey InternalMetric.slowConsumerAlert.name) then counted
  else counted.setInternal .slowConsumerAlert 0 now

def detach (collector : Collector) : Batch × Collector :=
  (collector.batch, { collector with batch := ∅ })

def reattach (collector : Collector) (undelivered : Batch) : Collector :=
  { collector with batch := undelivered.prepend collector.batch }

def countSent (collector : Collector) (count : UInt64) : Collector :=
  { collector with sent := collector.sent + count }

def series? (collector : Collector) (kind : SeriesKind) (name : String) (tags : Tags) :
    Option Series :=
  collector.batch[SeriesId.of kind name tags]?

def internalSeries? (collector : Collector) (name : String) : Option Series :=
  collector.batch[collector.internalKey name]?

end Collector

def Envelope.notices (envelope : Envelope) : List Notice :=
  match envelope.measurement? with
  | none => [.ignored envelope.type]
  | some measurement =>
    if measurement.value.isFinite then [] else [.dropped measurement.value measurement.name]

end TelemetryRelay
