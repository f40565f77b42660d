import TelemetryRelay.Proofs.History

/-!
Points are conserved. A point of a series is in a batch that was delivered, in the batch in flight
or in the pending batch, and the three together hold what was received, once and in order.
-/

namespace TelemetryRelay

namespace Collector

theorem points_setInternal (collector : Collector) (metric : InternalMetric) (value : UInt64)
    (now : Int64) {key : SeriesId} (external : key.kind ≠ .internal) :
    (collector.setInternal metric value now).batch.points key = collector.batch.points key := by
  apply Batch.points_insert_of_ne
  intro same
  subst same
  exact external rfl

theorem points_refresh (collector : Collector) (now : Int64) {key : SeriesId}
    (external : key.kind ≠ .internal) :
    (collector.refresh now).batch.points key = collector.batch.points key := by
  unfold refresh
  dsimp only
  split <;> simp only [points_setInternal _ _ _ _ external]

theorem points_add (collector : Collector) (envelope : Envelope) (key : SeriesId) :
    (collector.add envelope).batch.points key =
      collector.batch.points key ++ (envelope.point? key).toList := by
  rw [batch_add, envelope.point?_eq]
  cases envelope.sample? with
  | none => simp
  | some sample =>
      rw [Batch.points_record]
      by_cases same : sample.key = key <;> simp [same]

theorem points_take (collector : Collector) (intake : Intake) {key : SeriesId}
    (external : key.kind ≠ .internal) :
    (collector.take intake).batch.points key =
      collector.batch.points key ++
        (Journal.envelopes [.took intake]).filterMap fun envelope => envelope.point? key := by
  cases intake with
  | envelope envelope =>
      rw [take, points_add]
      cases found : envelope.point? key <;> simp [found]
  | alert time => simp [take, raiseAlert, points_setInternal _ _ _ _ external]

theorem points_arrive (collector : Collector) (arrival : Arrival) {key : SeriesId}
    (external : key.kind ≠ .internal) :
    (collector.arrive arrival).batch.points key =
      collector.batch.points key ++
        arrival.envelopes.filterMap fun envelope => envelope.point? key := by
  rw [arrive_eq_foldl, ← arrival.select_intakes.2]
  induction arrival.intakes generalizing collector with
  | nil => simp
  | cons intake rest ih =>
      have both : Journal.envelopes ((intake :: rest).map .took) =
          Journal.envelopes [.took intake] ++ Journal.envelopes (rest.map .took) :=
        Journal.select_append _ [.took intake] _
      rw [List.foldl_cons, ih, points_take _ _ external, both, List.filterMap_append,
        List.append_assoc]

end Collector

namespace Relay

def pointsInFlight (relay : Relay) (key : SeriesId) : List Point :=
  match relay.inFlight with
  | none => []
  | some flush => flush.batch.points key

/-- The points that a relay still owes a series, the older ones first. -/
def pointsHeld (relay : Relay) (key : SeriesId) : List Point :=
  relay.pointsInFlight key ++ relay.collector.batch.points key

theorem pointsHeld_took (relay : Relay) (intake : Intake) {key : SeriesId}
    (external : key.kind ≠ .internal) :
    pointsHeld { relay with collector := relay.collector.take intake } key =
      relay.pointsHeld key ++
        (Journal.envelopes [.took intake]).filterMap fun envelope => envelope.point? key := by
  simp only [pointsHeld, pointsInFlight, Collector.points_take _ _ external, List.append_assoc]

theorem pointsHeld_began (collector : Collector) (now : Int64) {key : SeriesId}
    (external : key.kind ≠ .internal) :
    pointsHeld ⟨(collector.beginFlush now).2, some (collector.beginFlush now).1⟩ key =
      pointsHeld ⟨collector, none⟩ key := by
  have detached : (collector.beginFlush now).1.batch = (collector.refresh now).batch := rfl
  have emptied : (collector.beginFlush now).2.batch = ∅ := rfl
  simp only [pointsHeld, pointsInFlight, detached, emptied, Batch.points_empty,
    Collector.points_refresh _ _ external, List.append_nil, List.nil_append]

theorem pointsHeld_ended (collector : Collector) (flush : Flush) (answer : Answer)
    {key : SeriesId} (external : key.kind ≠ .internal) :
    ((Journal.delivered [.ended flush (flush.result answer)]).flatMap fun flush =>
        flush.batch.points key) ++ pointsHeld ⟨collector.endFlush flush answer, none⟩ key =
      pointsHeld ⟨collector, some flush⟩ key := by
  unfold Collector.endFlush
  cases flush.result answer with
  | ok count => simp [pointsHeld, pointsInFlight, Collector.countSent]
  | error failure =>
      simp [pointsHeld, pointsInFlight, Collector.reattach, Batch.points_prepend _ _ _ external]

theorem Reached.points_held {start relay : Relay} {journal : Journal} {key : SeriesId}
    (external : key.kind ≠ .internal) (reached : Reached start journal relay) :
    (journal.delivered.flatMap fun flush => flush.batch.points key) ++ relay.pointsHeld key =
      start.pointsHeld key ++
        journal.envelopes.filterMap fun envelope => envelope.point? key := by
  induction reached with
  | start => simp
  | took intake _ ih =>
      rw [pointsHeld_took _ _ external]
      simpa [← List.append_assoc] using ih
  | began now _ ih =>
      rw [pointsHeld_began _ _ external]
      simpa using ih
  | ended answer _ ih =>
      rw [← pointsHeld_ended _ _ answer external] at ih
      simpa using ih

theorem Reached.points_received {deployment address : String} {relay : Relay} {journal : Journal}
    {key : SeriesId} (external : key.kind ≠ .internal)
    (reached : Reached (Relay.fresh deployment address) journal relay) :
    (journal.delivered.flatMap fun flush => flush.batch.points key) ++
        relay.pointsInFlight key ++ relay.collector.batch.points key =
      journal.envelopes.filterMap fun envelope => envelope.point? key := by
  have nothing : (Relay.fresh deployment address).pointsHeld key = [] := by
    simp [pointsHeld, pointsInFlight, Relay.fresh, Collector.fresh]
  have held := reached.points_held external
  rwa [nothing, List.nil_append, pointsHeld, ← List.append_assoc] at held

/-- No point is lost, duplicated or reordered, whatever writes fail: in every run, what was
delivered, what is in flight and what is pending are together what was received. -/
theorem points_conserved (deployment address : String) (occurrences : List Occurrence)
    (key : SeriesId) (external : key.kind = .value ∨ key.kind = .counter) :
    let relay := (Relay.fresh deployment address).run occurrences
    let journal := (Relay.fresh deployment address).journal occurrences
    let received := (occurrences.filterMap Occurrence.arrival?).flatMap Arrival.envelopes
    (journal.delivered.flatMap fun flush => flush.batch.points key) ++
        relay.pointsInFlight key ++ relay.collector.batch.points key =
      received.filterMap fun envelope => envelope.point? key := by
  intro relay journal received
  have notInternal : key.kind ≠ .internal := by
    rcases external with kind | kind <;> simp [kind]
  have envelopes : journal.envelopes = received := (select_journal _ occurrences).2
  rw [← envelopes]
  exact (reached_run (Relay.fresh deployment address) occurrences).points_received notInternal

theorem points_conserved_failed_write :
    let reading (time : Int64) (value : Nat) : Envelope :=
      ⟨some "router", time, none, some "api", none, none, [],
        .valueMetric ⟨"load", .ofNat value, ""⟩⟩
    let key : SeriesId := .of .value "router.load" ⟨["job=api"]⟩
    let occurrences : List Occurrence :=
      [.envelope (reading 1000000000 5), .beginFlush 2, .envelope (reading 3000000000 7),
        .endFlush (.missing "connection refused"), .beginFlush 4]
    let relay := (Relay.fresh "cf" "10.0.0.1").run occurrences
    let journal := (Relay.fresh "cf" "10.0.0.1").journal occurrences
    (journal.delivered.flatMap fun flush => flush.batch.points key) ++
        relay.pointsInFlight key ++ relay.collector.batch.points key =
      [⟨1, .ofNat 5⟩, ⟨3, .ofNat 7⟩] := by
  intro reading key occurrences relay journal
  have named (time : Int64) (value : Nat) :
      .of .value "router.load" (reading time value).seriesTags = key := rfl
  have measured (time : Int64) (value : Nat) :
      (reading time value).measurement? = some ⟨.value, "router.load", .ofNat value⟩ := rfl
  have first : (reading 1000000000 5).point? key = some ⟨1, .ofNat 5⟩ :=
    Envelope.point?_of_finite (measured _ 5) (by decide) (named _ 5) (by decide)
  have second : (reading 3000000000 7).point? key = some ⟨3, .ofNat 7⟩ :=
    Envelope.point?_of_finite (measured _ 7) (by decide) (named _ 7) (by decide)
  have received : (occurrences.filterMap Occurrence.arrival?).flatMap Arrival.envelopes =
      [reading 1000000000 5, reading 3000000000 7] := rfl
  refine (points_conserved "cf" "10.0.0.1" occurrences key (.inl rfl)).trans ?_
  rw [received, List.filterMap_cons, first, List.filterMap_cons, second, List.filterMap_nil]

end Relay

end TelemetryRelay
