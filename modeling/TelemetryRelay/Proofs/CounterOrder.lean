import TelemetryRelay.Proofs.Conservation
import TelemetryRelay.Proofs.InternalSeries
import TelemetryRelay.Proofs.Nearest

/-!
Counters in order. Every total of 64 bits is recorded, as the nearest number that there is, so the
points of a counter that never decreases at its source never decrease either.
-/

namespace TelemetryRelay

namespace Envelope

def total? (envelope : Envelope) (key : SeriesId) : Option UInt64 :=
  match envelope.event with
  | .counterEvent counter => if envelope.counterKey counter = key then some counter.total else none
  | _ => none

theorem value_point? (envelope : Envelope) {key : SeriesId} (counted : key.kind = .counter) :
    (envelope.point? key).map Point.value =
      (envelope.total? key).map fun total => .ofNat total.toNat := by
  unfold total?
  cases event : envelope.event with
  | counterEvent counter =>
      by_cases same : envelope.counterKey counter = key
      · subst same
        simp [point?_of_counter event]
      · have differs : SeriesId.of .counter (envelope.qualifiedName counter.name)
            envelope.seriesTags ≠ key := same
        simp [point?, measurement?, event, differs, same]
  | valueMetric metric =>
      have differs : SeriesId.of .value (envelope.qualifiedName metric.name)
          envelope.seriesTags ≠ key := by
        rintro rfl
        cases counted
      simp [point?, measurement?, event, differs]
  | other type => simp [point?, measurement?, event]

theorem values_filterMap_point? (envelopes : List Envelope) {key : SeriesId}
    (counted : key.kind = .counter) :
    (envelopes.filterMap fun envelope => envelope.point? key).map Point.value =
      (envelopes.filterMap fun envelope => envelope.total? key).map
        fun total => .ofNat total.toNat := by
  simp only [List.map_filterMap, value_point? _ counted]

end Envelope

theorem Collector.points_setInternal_self (collector : Collector) (metric : InternalMetric)
    (count : UInt64) (now : Int64) :
    (collector.setInternal metric count now).batch.points (collector.internalKey metric.name) =
      [⟨now, .ofNat count.toNat⟩] := by
  simp [Batch.points, getElem?_setInternal]

namespace Relay

theorem values_run (deployment address : String) (occurrences : List Occurrence) {key : SeriesId}
    (counted : key.kind = .counter) :
    let relay := (Relay.fresh deployment address).run occurrences
    let journal := (Relay.fresh deployment address).journal occurrences
    let received := (occurrences.filterMap Occurrence.arrival?).flatMap Arrival.envelopes
    ((journal.delivered.flatMap fun flush => flush.batch.points key) ++
        relay.pointsInFlight key ++ relay.collector.batch.points key).map Point.value =
      (received.filterMap fun envelope => envelope.total? key).map
        fun total => .ofNat total.toNat := by
  intro relay journal received
  have external : key.kind ≠ .internal := by simp [counted]
  have held := (reached_run (Relay.fresh deployment address) occurrences).points_received external
  have envelopes : journal.envelopes = received := (select_journal _ occurrences).2
  rw [held, envelopes, Envelope.values_filterMap_point? _ counted]

/-- Counters are never dropped and keep their order. A total, and a count of an internal series, is
recorded as the nearest number, unchanged up to `2 ^ 53`, and a greater one never as less. In every
run the points of a counter are all the totals that were received for it, in order; if those never
decrease, neither do the points, whatever writes fail. -/
theorem counters_ordered :
    (∀ total : UInt64,
      (Binary64.ofNat total.toNat).IsNearest total.toNat ∧
      (total.toNat ≤ 2 ^ 53 → (Binary64.ofNat total.toNat).rational = total.toNat) ∧
      ∀ other : UInt64, total ≤ other →
        (Binary64.ofNat total.toNat).rational ≤ (Binary64.ofNat other.toNat).rational) ∧
    (∀ (collector : Collector) (envelope : Envelope) (counter : CounterEvent),
      envelope.event = .counterEvent counter →
        (collector.add envelope).batch.points (envelope.counterKey counter) =
          collector.batch.points (envelope.counterKey counter) ++
            [⟨envelope.timestamp / 1000000000, .ofNat counter.total.toNat⟩]) ∧
    (∀ (collector : Collector) (metric : InternalMetric) (count : UInt64) (now : Int64),
      (collector.setInternal metric count now).batch.points (collector.internalKey metric.name) =
        [⟨now, .ofNat count.toNat⟩]) ∧
    ∀ (deployment address : String) (occurrences : List Occurrence) (key : SeriesId),
      key.kind = .counter →
        let relay := (Relay.fresh deployment address).run occurrences
        let journal := (Relay.fresh deployment address).journal occurrences
        let received := (occurrences.filterMap Occurrence.arrival?).flatMap Arrival.envelopes
        let totals := received.filterMap fun envelope => envelope.total? key
        let points := (journal.delivered.flatMap fun flush => flush.batch.points key) ++
          relay.pointsInFlight key ++ relay.collector.batch.points key
        points.map Point.value = totals.map (fun total => .ofNat total.toNat) ∧
          (totals.Pairwise (· ≤ ·) →
            points.Pairwise fun earlier later =>
              earlier.value.rational ≤ later.value.rational) := by
  have ordered (total other : UInt64) (less : total ≤ other) :
      (Binary64.ofNat total.toNat).rational ≤ (Binary64.ofNat other.toNat).rational :=
    Binary64.rational_ofNat_le (UInt64.le_iff_toNat_le.mp less) other.toNat_lt
  refine ⟨fun total => ⟨Binary64.isNearest_ofNat total.toNat_lt, Binary64.rational_ofNat_of_le,
    ordered total⟩, ?_, Collector.points_setInternal_self, ?_⟩
  · intro collector envelope counter event
    rw [Collector.points_add, Envelope.point?_of_counter event]
    rfl
  · intro deployment address occurrences key counted relay journal received totals points
    have values : points.map Point.value = totals.map fun total => .ofNat total.toNat :=
      values_run deployment address occurrences counted
    refine ⟨values, fun ascending => ?_⟩
    have recorded : (points.map Point.value).Pairwise fun earlier later =>
        earlier.rational ≤ later.rational := by
      rw [values, List.pairwise_map]
      exact ascending.imp fun {total other} => ordered total other
    rw [List.pairwise_map] at recorded
    exact recorded

/-- A total of 54 bits lies between two numbers and is recorded as the one below, which is even. A
write fails, and the points are in order nevertheless. -/
theorem counters_ordered_failed_write :
    let report (time : Int64) (total : UInt64) : Envelope :=
      ⟨some "router", time, none, some "api", none, none, [], .counterEvent ⟨"requests", 1, total⟩⟩
    let key : SeriesId := .of .counter "router.requests" ⟨["job=api"]⟩
    let occurrences : List Occurrence :=
      [.envelope (report 1000000000 9007199254740993), .beginFlush 2,
        .envelope (report 3000000000 9007199254740994), .endFlush (.missing "connection refused"),
        .beginFlush 4, .envelope (report 5000000000 18446744073709551615)]
    let relay := (Relay.fresh "cf" "10.0.0.1").run occurrences
    let journal := (Relay.fresh "cf" "10.0.0.1").journal occurrences
    let points := (journal.delivered.flatMap fun flush => flush.batch.points key) ++
      relay.pointsInFlight key ++ relay.collector.batch.points key
    let exact : UInt64 := 9007199254740992
    (Binary64.ofNat exact.toNat).rational = exact.toNat ∧
      ((Collector.fresh "cf" "10.0.0.1").add (report 1000000000 5)).batch.points key =
        [⟨1, .ofNat 5⟩] ∧
      points.map Point.value = [.ofNat (2 ^ 53), .ofNat (2 ^ 53 + 2), .ofNat (2 ^ 64)] ∧
      points.Pairwise fun earlier later => earlier.value.rational ≤ later.value.rational := by
  intro report key occurrences relay journal points exact
  obtain ⟨recorded, added, -, run⟩ := counters_ordered
  have named (time : Int64) (total : UInt64) : (report time total).total? key = some total :=
    if_pos rfl
  have received : (occurrences.filterMap Occurrence.arrival?).flatMap Arrival.envelopes =
      [report 1000000000 9007199254740993, report 3000000000 9007199254740994,
        report 5000000000 18446744073709551615] := rfl
  obtain ⟨values, ordered⟩ := run "cf" "10.0.0.1" occurrences key rfl
  simp only [received, List.filterMap_cons, named, List.filterMap_nil] at values ordered
  have point := added (.fresh "cf" "10.0.0.1") (report 1000000000 5) ⟨"requests", 1, 5⟩ rfl
  refine ⟨(recorded exact).2.1 (by decide), point.trans ?_,
    values.trans (by decide +kernel), ordered (by decide)⟩
  rw [Collector.fresh, Batch.points_empty]
  decide +kernel

end Relay

end TelemetryRelay
