import TelemetryRelay.Proofs.InternalSeries

/-!
The accounts of a flush: which series it sends, what its counters say, what it returns, and what it
leaves behind.
-/

namespace TelemetryRelay

-- The empty sum is the numeral, also where another zero is in scope.
attribute [local instance (high)] Zero.ofOfNat0

def Answer.status? : Answer → Option Status
  | .response status _ => some status
  | .missing _ => none

theorem Flush.result_eq_ok_iff (flush : Flush) (answer : Answer) (count : Nat) :
    flush.result answer = .ok count ↔
      count = flush.batch.size ∧
        ∃ status body, answer = .response status body ∧ 200 ≤ status.code ∧ status.code ≤ 299 := by
  cases answer with
  | missing reason => simp [result, Answer.outcome]
  | response status body =>
      by_cases success : status.isSuccess = true
      · have range : 200 ≤ status.code ∧ status.code ≤ 299 := by
          simpa [Status.isSuccess] using success
        simp [result, Answer.outcome, success, range, eq_comm]
      · have outside : ¬(200 ≤ status.code ∧ status.code ≤ 299) := by
          simpa [Status.isSuccess] using success
        cases body <;> simp [result, Answer.outcome, success, outside]

theorem Flush.status?_of_error (flush : Flush) {answer : Answer} {failure : DeliveryFailure}
    (failed : flush.result answer = .error failure) : failure.status? = answer.status? := by
  cases answer with
  | missing reason =>
      simp only [result, Answer.outcome, Except.error.injEq] at failed
      subst failed
      rfl
  | response status body =>
      by_cases success : status.isSuccess = true
      · simp [result, Answer.outcome, success] at failed
      · cases body <;> simp [result, Answer.outcome, success] at failed <;> rw [← failed] <;> rfl

def Batch.externalKeys (batch : Batch) : List SeriesId :=
  batch.keys.filter fun key => key.kind ≠ .internal

def internalKeys (tags : Tags) : List SeriesId :=
  [.of .internal "totalMessagesReceived" tags, .of .internal "totalMetricsSent" tags,
    .of .internal "slowConsumerAlert" tags]

theorem mem_internalKeys (tags : Tags) (key : SeriesId) :
    key ∈ internalKeys tags ↔ ∃ metric : InternalMetric, key = .of .internal metric.name tags := by
  constructor
  · intro member
    simp only [internalKeys, List.mem_cons, List.not_mem_nil, or_false] at member
    rcases member with received | sent | alert
    · exact ⟨.messagesReceived, received⟩
    · exact ⟨.metricsSent, sent⟩
    · exact ⟨.slowConsumerAlert, alert⟩
  · rintro ⟨metric, rfl⟩
    cases metric <;> simp [internalKeys, InternalMetric.name]

namespace Collector

theorem batch_gather_congr {left right : Collector} (sameBatch : left.batch = right.batch)
    (sameTags : left.internalTags = right.internalTags) (arrivals : List Arrival) :
    (left.gather arrivals).batch = (right.gather arrivals).batch := by
  rw [gather_eq_foldl, gather_eq_foldl]
  induction arrivals.flatMap Arrival.intakes generalizing left right with
  | nil => exact sameBatch
  | cons intake rest ih =>
      refine ih ?_ (by simpa using sameTags)
      cases intake with
      | envelope envelope => simp only [take, batch_add, sameBatch]
      | alert time => simp only [take, batch_raiseAlert, internalKey, sameBatch, sameTags]

theorem sent_gather (collector : Collector) (arrivals : List Arrival) :
    (collector.gather arrivals).sent = collector.sent := by
  rw [gather_eq_foldl]
  induction arrivals.flatMap Arrival.intakes generalizing collector with
  | nil => rfl
  | cons intake rest ih => exact (ih (collector.take intake)).trans (collector.sent_take intake)

theorem getElem?_refresh_external (collector : Collector) (now : Int64) {key : SeriesId}
    (external : key.kind ≠ .internal) :
    (collector.refresh now).batch[key]? = collector.batch[key]? := by
  apply getElem?_refresh_other
  intro metric same
  exact external (congrArg SeriesId.kind same).symm

theorem mem_refresh {collector : Collector} (named : collector.batch.Named collector.internalTags)
    (now : Int64) (key : SeriesId) :
    key ∈ (collector.refresh now).batch ↔
      key ∈ internalKeys collector.internalTags ∨
        (key.kind ≠ .internal ∧ key ∈ collector.batch) := by
  rw [mem_internalKeys]
  by_cases external : key.kind ≠ .internal
  · have notInternal : ¬∃ metric : InternalMetric,
        key = .of .internal metric.name collector.internalTags := by
      rintro ⟨metric, same⟩
      exact external (congrArg SeriesId.kind same)
    simp only [Std.ExtTreeMap.mem_iff_isSome_getElem?, notInternal, external,
      collector.getElem?_refresh_external now external, ne_eq, not_false_eq_true, true_and,
      false_or]
  · constructor
    · intro member
      rcases named_refresh now rfl named key member with internal | ⟨kind, _⟩
      · exact Or.inl internal
      · exact absurd kind external
    · rintro (⟨metric, same⟩ | ⟨kind, _⟩)
      · rw [Std.ExtTreeMap.mem_iff_isSome_getElem?, same]
        exact Option.isSome_iff_exists.mpr ⟨_, collector.getElem?_refresh_internal now metric⟩
      · exact absurd kind external

theorem keys_refresh {collector : Collector}
    (named : collector.batch.Named collector.internalTags) (now : Int64) :
    (collector.refresh now).batch.keys.Perm
      (internalKeys collector.internalTags ++ collector.batch.externalKeys) := by
  have distinct : (internalKeys collector.internalTags).Nodup := by
    simp [internalKeys, SeriesId.of]
  have apart : ∀ key ∈ internalKeys collector.internalTags,
      key ∉ collector.batch.externalKeys := by
    intro key member
    obtain ⟨metric, same⟩ := (mem_internalKeys _ key).mp member
    simp [Batch.externalKeys, same, SeriesId.of]
  apply (List.perm_ext_iff_of_nodup Std.ExtTreeMap.nodup_keys ?_).mpr
  · intro key
    simp [mem_refresh named, Batch.externalKeys, and_comm]
  · rw [List.nodup_append]
    refine ⟨distinct, Std.ExtTreeMap.nodup_keys.filter _, ?_⟩
    rintro key internal other external rfl
    exact apart key internal external

end Collector

/-- What a flush sends after a journal and with a batch pending: the three internal series and one
for each other key, and in the internal ones what the journal counts. -/
structure Flush.Sends (flush : Flush) (tags : Tags) (journal : Journal) (pending : Batch) :
    Prop where
  keys : flush.batch.keys.Perm (internalKeys tags ++ pending.externalKeys)
  external : ∀ key : SeriesId, key.kind ≠ .internal → flush.batch[key]? = pending[key]?
  received : flush.batch[SeriesId.of .internal "totalMessagesReceived" tags]? =
    some ⟨tags, [⟨flush.now, .ofNat journal.envelopes.length⟩]⟩
  sent : flush.batch[SeriesId.of .internal "totalMetricsSent" tags]? =
    some ⟨tags, [⟨flush.now, .ofNat journal.counts.sum⟩]⟩

namespace Relay

theorem Standing.received_toNat {tags : Tags} {journal : Journal} {relay : Relay}
    (standing : Standing tags journal relay) (bounded : journal.envelopes.length < UInt64.size) :
    relay.collector.received.toNat = journal.envelopes.length := by
  rw [standing.received]
  exact UInt64.toNat_ofNat_of_lt' bounded

theorem Standing.sent_toNat {tags : Tags} {journal : Journal} {relay : Relay}
    (standing : Standing tags journal relay) (bounded : journal.counts.sum < UInt64.size) :
    relay.collector.sent.toNat = journal.counts.sum := by
  rw [standing.sent]
  exact UInt64.toNat_ofNat_of_lt' bounded

theorem Standing.sends {tags : Tags} {journal : Journal} {collector : Collector}
    (standing : Standing tags journal ⟨collector, none⟩) (now : Int64)
    (receivedBound : journal.envelopes.length < UInt64.size)
    (sentBound : journal.counts.sum < UInt64.size) :
    (collector.beginFlush now).1.Sends tags journal collector.batch := by
  have tagged : collector.internalTags = tags := standing.internalTags
  have receivedNat := standing.received_toNat receivedBound
  have sentNat := standing.sent_toNat sentBound
  have named := standing.named
  subst tagged
  constructor
  · exact Collector.keys_refresh named now
  · intro key external
    exact collector.getElem?_refresh_external now external
  · rw [← receivedNat]
    exact collector.getElem?_refresh_internal now .messagesReceived
  · rw [← sentNat]
    exact collector.getElem?_refresh_internal now .metricsSent

theorem Standing.round {tags : Tags} {journal : Journal} {collector : Collector}
    (standing : Standing tags journal ⟨collector, none⟩) (now : Int64) (during : List Arrival)
    (answer : Answer)
    (sentBound : (Journal.counts
      (journal ++ Relay.journal ⟨collector, none⟩ (round now during answer))).sum < UInt64.size) :
    let after := Relay.run ⟨collector, none⟩ (round now during answer)
    match (collector.beginFlush now).1.result answer with
    | .ok count =>
      after.collector.sent.toNat = collector.sent.toNat + count ∧
        ∀ empty : Collector, empty.batch = ∅ → empty.internalTags = tags →
          after.collector.batch = (empty.gather during).batch
    | .error _ =>
      after.collector.sent = collector.sent ∧
        after.collector.batch = ((collector.refresh now).gather during).batch := by
  obtain ⟨sameTags, _, sameSent⟩ := collector.beginFlush_fields now
  rw [journal_round] at sentBound
  simp only [run_round]
  cases result : (collector.beginFlush now).1.result answer with
  | ok count =>
      have sentAfter : journal.counts.sum + count < UInt64.size := by
        have none_counted := Journal.counts_took (during.flatMap Arrival.intakes)
        simp only [Journal.counts] at none_counted sentBound ⊢
        simpa [result, none_counted] using sentBound
      have countBound : count < UInt64.size := by omega
      have sentBefore : collector.sent.toNat = journal.counts.sum :=
        standing.sent_toNat (by omega)
      rw [Collector.endFlush_of_ok _ result]
      constructor
      · simp only [Collector.countSent, Collector.sent_gather, sameSent]
        rw [UInt64.toNat_add, UInt64.toNat_ofNat_of_lt' countBound, sentBefore]
        exact Nat.mod_eq_of_lt sentAfter
      · intro empty emptied tagged
        exact Collector.batch_gather_congr emptied.symm
          ((sameTags.trans standing.internalTags).trans tagged.symm) during
  | error failure =>
      rw [collector.endFlush_gather_of_error now during result]
      exact ⟨(Collector.sent_gather _ during).trans sameSent, rfl⟩

/-- The accounts of a flush at any point of any run: what it sends, what it returns, and what it
leaves in the collector. -/
theorem flush_accounts (deployment address : String) (before : List Occurrence) (now : Int64)
    (during : List Arrival) (answer : Answer)
    (idle : ((Relay.fresh deployment address).run before).inFlight = none)
    (receivedBound : ((Relay.fresh deployment address).journal
      (before ++ round now during answer)).envelopes.length < UInt64.size)
    (sentBound : ((Relay.fresh deployment address).journal
      (before ++ round now during answer)).counts.sum < UInt64.size) :
    let start := Relay.fresh deployment address
    let relay := start.run before
    let after := start.run (before ++ round now during answer)
    ∃ flush, (start.run (before ++ [.beginFlush now])).inFlight = some flush ∧
      flush.now = now ∧
      flush.Sends start.collector.internalTags (start.journal before) relay.collector.batch ∧
      (∀ count, flush.result answer = .ok count ↔
        count = flush.batch.size ∧ ∃ status body,
          answer = .response status body ∧ 200 ≤ status.code ∧ status.code ≤ 299) ∧
      (∀ failure, flush.result answer = .error failure → failure.status? = answer.status?) ∧
      after.inFlight = none ∧
      match flush.result answer with
      | .ok count =>
        after.collector.sent.toNat = relay.collector.sent.toNat + count ∧
          after.collector.batch = (start.collector.gather during).batch
      | .error _ =>
        after.collector.sent = relay.collector.sent ∧
          after.collector.batch = ((relay.collector.refresh now).gather during).batch := by
  intro start relay after
  obtain ⟨collector, same⟩ : ∃ collector, start.run before = ⟨collector, none⟩ :=
    ⟨relay.collector, by rw [← idle]⟩
  have standing := (reached_run start before).standing
  rw [journal_append] at receivedBound sentBound
  change (Journal.counts (start.journal before ++ (start.run before).journal _)).sum < _
    at sentBound
  change (Journal.envelopes (start.journal before ++ (start.run before).journal _)).length < _
    at receivedBound
  simp only [after, relay, run_append]
  rw [same] at standing receivedBound sentBound ⊢
  have receivedBefore : (start.journal before).envelopes.length < UInt64.size := by
    simp only [Journal.envelopes, Journal.select_append, List.length_append] at receivedBound ⊢
    omega
  have sentBefore : (start.journal before).counts.sum < UInt64.size := by
    simp only [Journal.counts, Journal.select_append, List.sum_append] at sentBound ⊢
    omega
  have ended := standing.round now during answer sentBound
  refine ⟨(collector.beginFlush now).1, rfl, rfl,
    standing.sends now receivedBefore sentBefore, Flush.result_eq_ok_iff _ answer,
    fun failure failed => Flush.status?_of_error _ failed, ?_, ?_⟩
  · rw [run_round]
  · cases result : (collector.beginFlush now).1.result answer with
    | ok count =>
        rw [result] at ended
        exact ⟨ended.1, ended.2 start.collector rfl rfl⟩
    | error failure =>
        rw [result] at ended
        exact ended

theorem flush_accounts_failed_write :
    let start := Relay.fresh "cf" "10.0.0.1"
    let tags := start.collector.internalTags
    let before := round 1 [] (.response ⟨204, by decide⟩ none)
    let after := start.run (before ++ round 5 [.alert 6] (.missing "connection refused"))
    ∃ flush, (start.run (before ++ [.beginFlush 5])).inFlight = some flush ∧
      flush.batch[SeriesId.of .internal "totalMetricsSent" tags]? =
        some ⟨tags, [⟨5, .ofNat 3⟩]⟩ ∧
      after.collector.sent = (start.run before).collector.sent := by
  intro start tags before after
  have three : (start.journal before).counts.sum = 3 := by decide
  obtain ⟨flush, begun, time, sends, _, _, _, outcome⟩ :=
    flush_accounts "cf" "10.0.0.1" before 5 [.alert 6] (.missing "connection refused") rfl
      (by decide) (by decide)
  have sent := sends.sent
  rw [time, three] at sent
  exact ⟨flush, begun, sent, outcome.1⟩

end Relay

end TelemetryRelay
