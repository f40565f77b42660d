import TelemetryRelay.Proofs.Batch
import TelemetryRelay.Proofs.Rounding
import TelemetryRelay.Relay

/-!
What arrives at a collector, taken apart. Every arrival is a sequence of envelopes to add and of
alerts to raise, and taking in one of them commutes with putting an older batch back.
-/

namespace TelemetryRelay

inductive Intake
  | envelope (envelope : Envelope)
  | alert (time : Int64)
deriving DecidableEq

/-- An envelope of a datagram: the stream's own report of dropped messages raises an alert and is
then added as any other envelope. -/
def Envelope.intakes (envelope : Envelope) (time : Int64) : List Intake :=
  if envelope.reportsSlowConsumer then [.alert time, .envelope envelope] else [.envelope envelope]

theorem Envelope.reportsSlowConsumer_iff (envelope : Envelope) :
    envelope.reportsSlowConsumer = true ↔
      envelope.origin = some "doppler" ∧
        ∃ counter, envelope.event = .counterEvent counter ∧
          counter.name = "TruncatingBuffer.DroppedMessages" := by
  simp only [reportsSlowConsumer, originText, slowConsumerCounter, slowConsumerOrigin]
  cases envelope.event with
  | valueMetric metric => simp
  | other type => simp
  | counterEvent counter =>
      cases envelope.origin with
      | none => simp
      | some origin => simp [and_comm]

def Datagram.intakes (clock : Nat → Int64) (bytes : List UInt8) : List Intake :=
  match Datagram.lines bytes with
  | .error _ => []
  | .ok lines =>
    (Datagram.envelopes lines).zipIdx.flatMap
      fun (envelope, place) => envelope.intakes (clock place)

def Arrival.intakes : Arrival → List Intake
  | .envelope arrived => [.envelope arrived]
  | .alert now => [.alert now]
  | .datagram clock bytes => Datagram.intakes clock bytes

/-- The point that an envelope is worth to a series: its value, if that is finite, at its time in
whole seconds. -/
def Envelope.point? (envelope : Envelope) (key : SeriesId) : Option Point :=
  match envelope.measurement? with
  | none => none
  | some measurement =>
    if measurement.value.isFinite ∧
        SeriesId.of measurement.kind measurement.name envelope.seriesTags = key then
      some ⟨envelope.timestamp / 1000000000, measurement.value⟩
    else none

theorem Envelope.measurement?_kind {envelope : Envelope} {measurement : Measurement}
    (measured : envelope.measurement? = some measurement) : measurement.kind ≠ .internal := by
  unfold measurement? at measured
  split at measured <;> simp only [Option.some.injEq, reduceCtorEq] at measured
  · subst measured
    simp
  · subst measured
    simp

theorem Envelope.sample?_eq_some {envelope : Envelope} {sample : Sample}
    (sampled : envelope.sample? = some sample) :
    ∃ measurement, envelope.measurement? = some measurement ∧
      measurement.value.isFinite = true ∧
      sample = ⟨.of measurement.kind measurement.name envelope.seriesTags, envelope.seriesTags,
        ⟨envelope.timestamp / 1000000000, measurement.value⟩⟩ := by
  unfold sample? at sampled
  split at sampled
  · rename_i measurement measured
    split at sampled
    · rename_i finite
      exact ⟨measurement, measured, finite, (Option.some.inj sampled).symm⟩
    · simp at sampled
  · simp at sampled

theorem Envelope.sample?_external {envelope : Envelope} {sample : Sample}
    (sampled : envelope.sample? = some sample) : sample.key.kind ≠ .internal := by
  obtain ⟨measurement, measured, -, rfl⟩ := envelope.sample?_eq_some sampled
  exact envelope.measurement?_kind measured

theorem Envelope.point?_eq (envelope : Envelope) (key : SeriesId) :
    envelope.point? key =
      match envelope.sample? with
      | none => none
      | some sample => if sample.key = key then some sample.point else none := by
  unfold point? sample?
  cases envelope.measurement? with
  | none => rfl
  | some measurement =>
      by_cases finite : measurement.value.isFinite = true <;> simp [finite, seconds]

theorem Envelope.point?_of_finite {envelope : Envelope} {measurement : Measurement}
    {key : SeriesId} {seconds : Int64} (measured : envelope.measurement? = some measurement)
    (finite : measurement.value.isFinite = true)
    (named : .of measurement.kind measurement.name envelope.seriesTags = key)
    (whole : envelope.timestamp / 1000000000 = seconds) :
    envelope.point? key = some ⟨seconds, measurement.value⟩ := by
  simp [point?, measured, finite, named, whole]

def Envelope.counterKey (envelope : Envelope) (counter : CounterEvent) : SeriesId :=
  .of .counter (envelope.qualifiedName counter.name) envelope.seriesTags

theorem Envelope.point?_of_counter {envelope : Envelope} {counter : CounterEvent}
    (event : envelope.event = .counterEvent counter) :
    envelope.point? (envelope.counterKey counter) =
      some ⟨envelope.timestamp / 1000000000, .ofNat counter.total.toNat⟩ := by
  have measured : envelope.measurement? = some
      ⟨.counter, envelope.qualifiedName counter.name, .ofNat counter.total.toNat⟩ := by
    rw [measurement?, event]
  exact point?_of_finite measured (Binary64.isFinite_ofUInt64 _) rfl rfl

namespace Collector

def take (collector : Collector) : Intake → Collector
  | .envelope envelope => collector.add envelope
  | .alert time => collector.raiseAlert time

theorem accept_eq_foldl (collector : Collector) (time : Int64) (envelope : Envelope) :
    collector.accept time envelope = (envelope.intakes time).foldl take collector := by
  unfold accept Envelope.intakes
  split <;> rfl

theorem arrive_eq_foldl (collector : Collector) (arrival : Arrival) :
    collector.arrive arrival = arrival.intakes.foldl take collector := by
  cases arrival with
  | envelope envelope => rfl
  | alert now => rfl
  | datagram clock bytes =>
      simp only [arrive, receive, Arrival.intakes, Datagram.intakes]
      cases Datagram.lines bytes with
      | error fault => rfl
      | ok lines => simp only [List.foldl_flatMap, accept_eq_foldl]

theorem gather_eq_foldl (collector : Collector) (arrivals : List Arrival) :
    collector.gather arrivals = (arrivals.flatMap Arrival.intakes).foldl take collector := by
  have steps : arrive = fun collector arrival => arrival.intakes.foldl take collector := by
    funext collector arrival
    exact collector.arrive_eq_foldl arrival
  rw [gather, steps, List.foldl_flatMap]

@[simp] theorem internalTags_take (collector : Collector) (intake : Intake) :
    (collector.take intake).internalTags = collector.internalTags := by
  cases intake <;> rfl

@[simp] theorem sent_take (collector : Collector) (intake : Intake) :
    (collector.take intake).sent = collector.sent := by
  cases intake <;> rfl

theorem batch_add (collector : Collector) (envelope : Envelope) :
    (collector.add envelope).batch =
      match envelope.sample? with
      | none => collector.batch
      | some sample => collector.batch.record sample := by
  unfold add
  cases envelope.sample? <;> rfl

theorem foldl_add_eq (collector : Collector) (envelopes : List Envelope) :
    envelopes.foldl add collector =
      ⟨(envelopes.filterMap Envelope.sample?).foldl Batch.record collector.batch,
        collector.internalTags, collector.received + .ofNat envelopes.length, collector.sent⟩ := by
  induction envelopes generalizing collector with
  | nil => simp
  | cons envelope rest ih =>
      have counted : collector.received + 1 + .ofNat rest.length =
          collector.received + .ofNat (rest.length + 1) := by
        rw [UInt64.ofNat_add, UInt64.add_assoc, UInt64.add_comm 1]
        rfl
      rw [List.foldl_cons, ih, batch_add, received_add, internalTags_add, sent_add, counted,
        List.length_cons]
      cases sampled : envelope.sample? with
      | none => rw [List.filterMap_cons_none sampled]
      | some sample => rw [List.filterMap_cons_some sampled, List.foldl_cons]

theorem batch_raiseAlert (collector : Collector) (time : Int64) :
    (collector.raiseAlert time).batch =
      collector.batch.insert (collector.internalKey "slowConsumerAlert")
        ⟨collector.internalTags, [⟨time, .ofNat 1⟩]⟩ := rfl

theorem reattach_take (collector : Collector) (undelivered : Batch) (intake : Intake) :
    (collector.take intake).reattach undelivered =
      (collector.reattach undelivered).take intake := by
  cases intake with
  | envelope envelope =>
      simp only [take, reattach, add]
      cases sampled : envelope.sample? with
      | none => rfl
      | some sample =>
          simp only [undelivered.prepend_record _ _ (envelope.sample?_external sampled)]
  | alert time =>
      have inserted := undelivered.prepend_insert collector.batch
        (collector.internalKey "slowConsumerAlert")
        ⟨collector.internalTags, [⟨time, .ofNat 1⟩]⟩ rfl
      simp only [take, reattach, batch_raiseAlert, inserted]
      rfl

theorem reattach_foldl_take (collector : Collector) (undelivered : Batch)
    (intakes : List Intake) :
    (intakes.foldl take collector).reattach undelivered =
      intakes.foldl take (collector.reattach undelivered) := by
  induction intakes generalizing collector with
  | nil => rfl
  | cons intake rest ih => rw [List.foldl_cons, ih, reattach_take, List.foldl_cons]

theorem reattach_gather (collector : Collector) (undelivered : Batch)
    (arrivals : List Arrival) :
    (collector.gather arrivals).reattach undelivered =
      (collector.reattach undelivered).gather arrivals := by
  simp only [gather_eq_foldl, reattach_foldl_take]

end Collector

end TelemetryRelay
