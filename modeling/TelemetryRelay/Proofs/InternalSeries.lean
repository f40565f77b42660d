import TelemetryRelay.Proofs.FailedFlush

/-!
The internal series: what each operation does to them, and that no other series is called like one
of them.
-/

namespace TelemetryRelay

-- The empty sum is the numeral, also where another zero is in scope.
attribute [local instance (high)] Zero.ofOfNat0

theorem InternalMetric.name_inj {left right : InternalMetric} (same : left.name = right.name) :
    left = right := by
  cases left <;> cases right <;> first | rfl | simp [name] at same

/-- A key of an internal metric, or one whose name joins an origin and a name by a dot. -/
def SeriesId.Named (tags : Tags) (key : SeriesId) : Prop :=
  (∃ metric : InternalMetric, key = .of .internal metric.name tags) ∨
    (key.kind ≠ .internal ∧ '.' ∈ key.name.toList)

theorem SeriesId.Named.eq_of_name {tags : Tags} {key : SeriesId} {metric : InternalMetric}
    (named : key.Named tags) (called : key.name = metric.name) :
    key = .of .internal metric.name tags := by
  rcases named with ⟨other, rfl⟩ | ⟨-, dotted⟩
  · rw [← InternalMetric.name_inj called]
  · rw [called] at dotted
    cases metric <;> simp [InternalMetric.name] at dotted

theorem Envelope.sample?_named {envelope : Envelope} {sample : Sample} (tags : Tags)
    (sampled : envelope.sample? = some sample) : sample.key.Named tags := by
  obtain ⟨measurement, measured, -, rfl⟩ := envelope.sample?_eq_some sampled
  refine Or.inr ⟨envelope.measurement?_kind measured, ?_⟩
  unfold measurement? at measured
  split at measured <;> simp only [Option.some.injEq, reduceCtorEq] at measured
  · subst measured
    simp [SeriesId.of, qualifiedName]
  · subst measured
    simp [SeriesId.of, qualifiedName]

def Batch.Named (tags : Tags) (batch : Batch) : Prop :=
  ∀ key ∈ batch, key.Named tags

namespace Batch

theorem Named.empty (tags : Tags) : Named tags ∅ := by
  intro key member
  simp at member

theorem Named.insert {tags : Tags} {batch : Batch} (named : batch.Named tags)
    (metric : InternalMetric) (series : Series) :
    Named tags (batch.insert (.of .internal metric.name tags) series) := by
  intro key member
  rcases Std.ExtTreeMap.mem_insert.mp member with same | old
  · exact Or.inl ⟨metric, (Std.compare_eq_iff_eq.mp same).symm⟩
  · exact named key old

theorem Named.record {tags : Tags} {batch : Batch} (named : batch.Named tags) {sample : Sample}
    (sampled : sample.key.Named tags) : Named tags (batch.record sample) := by
  intro key member
  rw [Std.ExtTreeMap.mem_iff_isSome_getElem?, getElem?_record] at member
  by_cases same : sample.key = key
  · exact same ▸ sampled
  · rw [if_neg same] at member
    exact named key (Std.ExtTreeMap.mem_iff_isSome_getElem?.mpr member)

theorem Named.prepend {tags : Tags} {older pending : Batch} (olderNamed : older.Named tags)
    (named : pending.Named tags) : Named tags (older.prepend pending) := by
  intro key member
  rw [Std.ExtTreeMap.mem_iff_isSome_getElem?, getElem?_prepend] at member
  cases found : older[key]? with
  | none =>
      simp only [found] at member
      exact named key (Std.ExtTreeMap.mem_iff_isSome_getElem?.mpr member)
  | some series =>
      exact olderNamed key (Std.ExtTreeMap.mem_iff_isSome_getElem?.mpr (by simp [found]))

end Batch

namespace Collector

@[simp] theorem internalTags_setInternal (collector : Collector) (metric : InternalMetric)
    (value : UInt64) (now : Int64) :
    (collector.setInternal metric value now).internalTags = collector.internalTags := rfl

@[simp] theorem internalKey_setInternal (collector : Collector) (metric : InternalMetric)
    (value : UInt64) (now : Int64) (name : String) :
    (collector.setInternal metric value now).internalKey name = collector.internalKey name := rfl

@[simp] theorem internalKey_inj (collector : Collector) (left right : InternalMetric) :
    collector.internalKey left.name = collector.internalKey right.name ↔ left = right := by
  constructor
  · intro same
    exact InternalMetric.name_inj (congrArg SeriesId.name same)
  · rintro rfl
    rfl

theorem getElem?_setInternal (collector : Collector) (metric : InternalMetric) (value : UInt64)
    (now : Int64) (key : SeriesId) :
    (collector.setInternal metric value now).batch[key]? =
      if collector.internalKey metric.name = key then
        some ⟨collector.internalTags, [⟨now, .ofNat value.toNat⟩]⟩
      else collector.batch[key]? := by
  simp only [setInternal, Std.ExtTreeMap.getElem?_insert, Std.compare_eq_iff_eq]

theorem refresh_eq (collector : Collector) (now : Int64) :
    collector.refresh now =
      let counted := (collector.setInternal .messagesReceived collector.received now).setInternal
        .metricsSent collector.sent now
      match collector.batch[collector.internalKey InternalMetric.slowConsumerAlert.name]? with
      | some _ => counted
      | none => counted.setInternal .slowConsumerAlert 0 now := by
  simp only [refresh, internalKey_setInternal, Std.ExtTreeMap.contains_eq_isSome_getElem?,
    getElem?_setInternal, internalKey_inj, reduceCtorEq, if_false]
  cases collector.batch[collector.internalKey InternalMetric.slowConsumerAlert.name]? <;> rfl

def current (collector : Collector) (now : Int64) : InternalMetric → Series
  | .messagesReceived =>
    ⟨collector.internalTags, [⟨now, .ofNat collector.received.toNat⟩]⟩
  | .metricsSent => ⟨collector.internalTags, [⟨now, .ofNat collector.sent.toNat⟩]⟩
  | .slowConsumerAlert =>
    collector.batch[collector.internalKey InternalMetric.slowConsumerAlert.name]?.getD
      ⟨collector.internalTags, [⟨now, .ofNat 0⟩]⟩

theorem getElem?_refresh_internal (collector : Collector) (now : Int64)
    (metric : InternalMetric) :
    (collector.refresh now).batch[collector.internalKey metric.name]? =
      some (collector.current now metric) := by
  rw [refresh_eq]
  cases alert : collector.batch[collector.internalKey InternalMetric.slowConsumerAlert.name]? <;>
    cases metric <;> simp [getElem?_setInternal, current, alert]

theorem getElem?_refresh_other (collector : Collector) (now : Int64) {key : SeriesId}
    (other : ∀ metric : InternalMetric, collector.internalKey metric.name ≠ key) :
    (collector.refresh now).batch[key]? = collector.batch[key]? := by
  rw [refresh_eq]
  cases collector.batch[collector.internalKey InternalMetric.slowConsumerAlert.name]? <;>
    simp [getElem?_setInternal, other]

theorem beginFlush_fields (collector : Collector) (now : Int64) :
    (collector.beginFlush now).2.internalTags = collector.internalTags ∧
      (collector.beginFlush now).2.received = collector.received ∧
      (collector.beginFlush now).2.sent = collector.sent := by
  simp only [beginFlush, detach, refresh_eq]
  cases collector.batch[collector.internalKey InternalMetric.slowConsumerAlert.name]? <;>
    exact ⟨rfl, rfl, rfl⟩

theorem named_take {collector : Collector} {tags : Tags} (intake : Intake)
    (tagged : collector.internalTags = tags) (named : collector.batch.Named tags) :
    (collector.take intake).batch.Named tags := by
  subst tagged
  cases intake with
  | envelope envelope =>
      rw [take, batch_add]
      cases sampled : envelope.sample? with
      | none => exact named
      | some sample => exact named.record (envelope.sample?_named _ sampled)
  | alert time => exact named.insert .slowConsumerAlert _

theorem named_refresh {collector : Collector} {tags : Tags} (now : Int64)
    (tagged : collector.internalTags = tags) (named : collector.batch.Named tags) :
    (collector.refresh now).batch.Named tags := by
  subst tagged
  have counted := (named.insert .messagesReceived
    ⟨collector.internalTags, [⟨now, .ofNat collector.received.toNat⟩]⟩).insert .metricsSent
    ⟨collector.internalTags, [⟨now, .ofNat collector.sent.toNat⟩]⟩
  rw [refresh_eq]
  cases collector.batch[collector.internalKey InternalMetric.slowConsumerAlert.name]? with
  | some series => exact counted
  | none => exact counted.insert .slowConsumerAlert _

end Collector

namespace Relay

/-- What holds of a relay that a journal leads to: its counters count the journal, and its series
are called as they should be. -/
structure Standing (tags : Tags) (journal : Journal) (relay : Relay) : Prop where
  internalTags : relay.collector.internalTags = tags
  received : relay.collector.received = .ofNat journal.envelopes.length
  sent : relay.collector.sent = .ofNat journal.counts.sum
  named : relay.collector.batch.Named tags
  namedInFlight : ∀ flush, relay.inFlight = some flush → flush.batch.Named tags

variable {tags : Tags} {journal : Journal}

theorem Standing.fresh (deployment address : String) :
    Standing (Relay.fresh deployment address).collector.internalTags []
      (Relay.fresh deployment address) where
  internalTags := rfl
  received := rfl
  sent := rfl
  named := Batch.Named.empty _
  namedInFlight := by simp [Relay.fresh]

theorem Standing.took {relay : Relay} (standing : Standing tags journal relay)
    (intake : Intake) :
    Standing tags (journal ++ [.took intake])
      { relay with collector := relay.collector.take intake } where
  internalTags := by simpa using standing.internalTags
  received := by
    cases intake with
    | envelope envelope => simp [Collector.take, standing.received, UInt64.ofNat_add]
    | alert time =>
        simpa [Collector.take, Collector.raiseAlert, Collector.setInternal] using standing.received
  sent := by simpa using standing.sent
  named := Collector.named_take intake standing.internalTags standing.named
  namedInFlight := standing.namedInFlight

theorem Standing.began {collector : Collector} (standing : Standing tags journal ⟨collector, none⟩)
    (now : Int64) :
    Standing tags (journal ++ [.began (collector.beginFlush now).1])
      ⟨(collector.beginFlush now).2, some (collector.beginFlush now).1⟩ := by
  obtain ⟨sameTags, sameReceived, sameSent⟩ := collector.beginFlush_fields now
  constructor
  · exact sameTags.trans standing.internalTags
  · simpa using sameReceived.trans standing.received
  · simpa using sameSent.trans standing.sent
  · exact Batch.Named.empty tags
  · intro flush started
    cases started
    exact Collector.named_refresh now standing.internalTags standing.named

theorem Standing.ended {collector : Collector} {flush : Flush}
    (standing : Standing tags journal ⟨collector, some flush⟩) (answer : Answer) :
    Standing tags (journal ++ [.ended flush (flush.result answer)])
      ⟨collector.endFlush flush answer, none⟩ := by
  have none_in_flight : ∀ other, (none : Option Flush) = some other → other.batch.Named tags := by
    intro other impossible
    cases impossible
  cases result : flush.result answer with
  | ok count =>
      rw [collector.endFlush_of_ok result]
      constructor
      · exact standing.internalTags
      · simpa [Collector.countSent] using standing.received
      · have before : collector.sent = .ofNat journal.counts.sum := standing.sent
        simp [Collector.countSent, before, UInt64.ofNat_add]
      · exact standing.named
      · exact none_in_flight
  | error failure =>
      rw [collector.endFlush_of_error result]
      constructor
      · exact standing.internalTags
      · simpa [Collector.reattach] using standing.received
      · simpa [Collector.reattach] using standing.sent
      · exact (standing.namedInFlight flush rfl).prepend standing.named
      · exact none_in_flight

theorem Reached.standing {deployment address : String} {relay : Relay}
    (reached : Reached (Relay.fresh deployment address) journal relay) :
    Standing (Relay.fresh deployment address).collector.internalTags journal relay := by
  induction reached with
  | start => exact Standing.fresh deployment address
  | took intake _ ih => exact ih.took intake
  | began now _ ih => exact ih.began now
  | ended answer _ ih => exact ih.ended answer

end Relay

end TelemetryRelay
