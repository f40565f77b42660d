import TelemetryRelay.Proofs.Grouping

/-!
Series do not depend on each other. Envelopes that come in another order leave the same collector,
as long as those of one series keep their order among themselves.
-/

namespace TelemetryRelay

theorem SeriesId.members_eq (key : SeriesId) (envelopes : List Envelope) :
    key.members envelopes =
      envelopes.filter fun envelope => envelope.sample?.map Sample.key = some key := by
  simp [members, Envelope.sample?_eq]

namespace Collector

/-- Two orders of the same envelopes lead to the same collector if they agree on the envelopes whose
samples have one key, for each key; an envelope without a sample may be anywhere. Whatever the
order, each series gets the points of its own envelopes in theirs, and every envelope is counted. -/
theorem order_between_series (collector : Collector) (left right : List Envelope)
    (same : left.Perm right)
    (ordered : ∀ key : SeriesId,
      (left.filter fun envelope => envelope.sample?.map Sample.key = some key) =
        right.filter fun envelope => envelope.sample?.map Sample.key = some key) :
    left.foldl add collector = right.foldl add collector ∧
      (left.foldl add collector).received = collector.received + .ofNat left.length ∧
      ∀ key : SeriesId, (left.foldl add collector).batch.points key =
        collector.batch.points key ++
          (left.filter fun envelope => envelope.sample?.map Sample.key = some key).map
            Envelope.point := by
  simp only [← SeriesId.members_eq] at ordered ⊢
  have batches : (left.foldl add collector).batch = (right.foldl add collector).batch := by
    apply Std.ExtTreeMap.ext_getElem?
    intro key
    rw [getElem?_foldl_add_onto, getElem?_foldl_add_onto, ordered key]
  refine ⟨?_, received_foldl_add collector left, points_foldl_add collector left⟩
  simp only [foldl_add_eq] at batches ⊢
  rw [batches, same.length_eq]

theorem order_between_series_shuffled :
    let gauge (value : Binary64) : Envelope :=
      ⟨some "o", 1000000000, none, none, none, none, [], .valueMetric ⟨"load", value, ""⟩⟩
    let counter : Envelope :=
      ⟨some "o", 2000000000, none, none, none, none, [], .counterEvent ⟨"load", 1, 7⟩⟩
    let message : Envelope := ⟨none, 0, none, none, none, none, [], .other .logMessage⟩
    let unbounded := gauge ⟨false, ⟨Binary64.infinity, by decide⟩⟩
    let left := [gauge (.ofNat 1), message, counter, gauge (.ofNat 2), unbounded]
    let right := [unbounded, counter, gauge (.ofNat 1), gauge (.ofNat 2), message]
    let collector := fresh "cf" "10.0.0.1"
    left.Perm right ∧
      (∀ key : SeriesId,
        (left.filter fun envelope => envelope.sample?.map Sample.key = some key) =
          right.filter fun envelope => envelope.sample?.map Sample.key = some key) ∧
      left.foldl add collector = right.foldl add collector ∧
      (left.foldl add collector).batch.points (.of .value "o.load" ⟨[]⟩) =
        [⟨1, .ofNat 1⟩, ⟨1, .ofNat 2⟩] := by
  intro gauge counter message unbounded left right collector
  have keyed (value : Binary64) (finite : value.isFinite = true) :
      (gauge value).sample?.map Sample.key = some (.of .value "o.load" ⟨[]⟩) := by
    have measured : (gauge value).measurement? = some ⟨.value, "o.load", value⟩ := rfl
    simp only [Envelope.sample?, measured, finite, if_true]
    rfl
  have first := keyed (.ofNat 1) (by decide)
  have second := keyed (.ofNat 2) (by decide)
  have counted : counter.sample?.map Sample.key = some (.of .counter "o.load" ⟨[]⟩) :=
    rfl
  have dropped : unbounded.sample?.map Sample.key = none := rfl
  have ignored : message.sample?.map Sample.key = none := rfl
  have same : left.Perm right := by decide
  have ordered (key : SeriesId) :
      (left.filter fun envelope => envelope.sample?.map Sample.key = some key) =
        right.filter fun envelope => envelope.sample?.map Sample.key = some key := by
    simp only [left, right, List.filter_cons, List.filter_nil, first, second, counted, dropped,
      ignored]
    by_cases value : SeriesId.of .value "o.load" ⟨[]⟩ = key
    · subst value
      simp [SeriesId.of]
    · simp [value]
  obtain ⟨equal, -, points⟩ := order_between_series collector left right same ordered
  refine ⟨same, ordered, equal, ?_⟩
  have start : collector.batch = ∅ := rfl
  have members : (left.filter fun envelope =>
      envelope.sample?.map Sample.key = some (.of .value "o.load" ⟨[]⟩)) =
        [gauge (.ofNat 1), gauge (.ofNat 2)] := by
    simp only [left, List.filter_cons, List.filter_nil, first, second, counted, dropped, ignored]
    simp [SeriesId.of]
  have seconds : (1000000000 : Int64) / 1000000000 = 1 := by decide
  rw [points, start, Batch.points_empty, members]
  simp [gauge, Envelope.point, Envelope.value, seconds]

end Collector

end TelemetryRelay
