import Mathlib.Data.List.DropRight
import TelemetryRelay.Proofs.Conservation
import TelemetryRelay.Proofs.InternalSeries

/-!
The life of an alert. An alert that has been raised goes out with every attempt until one of them is
delivered; the journal alone says which point the series of the alert has.
-/

namespace TelemetryRelay

namespace Journal

def sinceBegun (journal : Journal) : Journal :=
  journal.rtakeWhile fun entry => !entry.isBegin

def sinceDelivered (journal : Journal) : Journal :=
  journal.rtakeWhile fun entry => !entry.isDelivery

/-- What happened since the flush of the last delivery began. -/
def sinceDetached (journal : Journal) : Journal :=
  sinceBegun (journal.rdropWhile fun entry => !entry.isDelivery) ++ journal.sinceDelivered

def alertPoint (journal : Journal) (now : Int64) : Point :=
  match journal.sinceDetached.alerts.getLast? with
  | some time => ⟨time, .ofNat 1⟩
  | none => ⟨(journal.sinceDelivered.attempts.head?.map Flush.now).getD now, .ofNat 0⟩

def queuedAlert? (journal : Journal) : Option Point :=
  match journal.sinceDetached.alerts.getLast? with
  | some time => some ⟨time, .ofNat 1⟩
  | none => journal.sinceDelivered.attempts.head?.map fun flush => ⟨flush.now, .ofNat 0⟩

theorem alertPoint_eq (journal : Journal) (now : Int64) :
    journal.alertPoint now = journal.queuedAlert?.getD ⟨now, .ofNat 0⟩ := by
  unfold alertPoint queuedAlert?
  cases journal.sinceDetached.alerts.getLast? with
  | some time => rfl
  | none => cases journal.sinceDelivered.attempts.head? <;> rfl

theorem sinceBegun_concat (journal : Journal) {entry : Entry} (other : entry.isBegin = false) :
    (journal ++ [entry]).sinceBegun = journal.sinceBegun ++ [entry] :=
  List.rtakeWhile_concat_pos _ _ _ (by simp [other])

theorem sinceBegun_began (journal : Journal) (flush : Flush) :
    sinceBegun (journal ++ [.began flush]) = [] :=
  List.rtakeWhile_concat_neg _ _ _ (by simp [Entry.isBegin])

theorem sinceBegun_split (earlier : Journal) (flush : Flush) (later : Journal)
    (none_began : ∀ entry ∈ later, entry.isBegin = false) :
    sinceBegun (earlier ++ .began flush :: later) = later := by
  induction later using List.reverseRecOn with
  | nil => exact earlier.sinceBegun_began flush
  | append_singleton rest last ih =>
      have other : last.isBegin = false := none_began last (by simp)
      rw [← List.cons_append, ← List.append_assoc, sinceBegun_concat _ other,
        ih fun entry member => none_began entry (by simp [member])]

theorem sinceDelivered_concat (journal : Journal) {entry : Entry}
    (undelivered : entry.isDelivery = false) :
    (journal ++ [entry]).sinceDelivered = journal.sinceDelivered ++ [entry] :=
  List.rtakeWhile_concat_pos _ _ _ (by simp [undelivered])

theorem sinceDetached_concat (journal : Journal) {entry : Entry}
    (undelivered : entry.isDelivery = false) :
    (journal ++ [entry]).sinceDetached = journal.sinceDetached ++ [entry] := by
  have kept : (journal ++ [entry]).rdropWhile (fun entry => !entry.isDelivery) =
      journal.rdropWhile fun entry => !entry.isDelivery :=
    List.rdropWhile_concat_pos _ _ _ (by simp [undelivered])
  rw [sinceDetached, kept, sinceDelivered_concat journal undelivered, ← List.append_assoc]
  rfl

theorem since_delivery (journal : Journal) (flush : Flush) (count : Nat) :
    sinceDelivered (journal ++ [.ended flush (.ok count)]) = [] ∧
      sinceDetached (journal ++ [.ended flush (.ok count)]) =
        journal.sinceBegun ++ [.ended flush (.ok count)] := by
  have ended : sinceDelivered (journal ++ [.ended flush (.ok count)]) = [] :=
    List.rtakeWhile_concat_neg _ _ _ (by simp [Entry.isDelivery])
  have kept : List.rdropWhile (fun entry => !entry.isDelivery)
      (journal ++ [.ended flush (.ok count)]) = journal ++ [.ended flush (.ok count)] :=
    List.rdropWhile_concat_neg _ _ _ (by simp [Entry.isDelivery])
  refine ⟨ended, ?_⟩
  rw [sinceDetached, ended, kept, List.append_nil, sinceBegun_concat journal rfl]

theorem queuedAlert?_envelope (journal : Journal) (envelope : Envelope) :
    queuedAlert? (journal ++ [.took (.envelope envelope)]) = journal.queuedAlert? := by
  rw [queuedAlert?, sinceDetached_concat _ rfl, sinceDelivered_concat _ rfl]
  simp [queuedAlert?]

theorem queuedAlert?_alert (journal : Journal) (time : Int64) :
    queuedAlert? (journal ++ [.took (.alert time)]) = some ⟨time, .ofNat 1⟩ := by
  rw [queuedAlert?, sinceDetached_concat _ rfl]
  simp

theorem queuedAlert?_began (journal : Journal) (flush : Flush) :
    queuedAlert? (journal ++ [.began flush]) = some (journal.alertPoint flush.now) := by
  unfold queuedAlert? alertPoint
  rw [sinceDetached_concat _ rfl, sinceDelivered_concat _ rfl]
  simp only [alerts, attempts, select_append, select_cons, select_nil, Entry.alert?,
    Entry.attempt?, Option.toList, List.append_nil]
  cases (journal.sinceDetached.select Entry.alert?).getLast? with
  | some time => rfl
  | none => cases journal.sinceDelivered.select Entry.attempt? <;> rfl

theorem queuedAlert?_failed (journal : Journal) (flush : Flush) (failure : DeliveryFailure) :
    queuedAlert? (journal ++ [.ended flush (.error failure)]) = journal.queuedAlert? := by
  rw [queuedAlert?, sinceDetached_concat _ rfl, sinceDelivered_concat _ rfl]
  simp [queuedAlert?]

theorem queuedAlert?_delivered (journal : Journal) (flush : Flush) (count : Nat) :
    queuedAlert? (journal ++ [.ended flush (.ok count)]) =
      journal.sinceBegun.alerts.getLast?.map fun time => ⟨time, .ofNat 1⟩ := by
  obtain ⟨delivered, detached⟩ := journal.since_delivery flush count
  rw [queuedAlert?, delivered, detached]
  cases latest : journal.sinceBegun.alerts.getLast? <;> simp_all

theorem undelivered_of_began {journal before after : Journal} {carrier : Flush}
    (split : journal.sinceDetached = before ++ .began carrier :: after) :
    ∀ entry ∈ after, entry.isDelivery = false := by
  intro entry member
  -- The first part of `sinceDetached` holds no beginning, so the entry is in the second.
  have late : entry ∈ journal.sinceDelivered := by
    rcases List.append_eq_append_iff.mp split with
      ⟨middle, _, second⟩ | ⟨middle, first, second⟩
    · simp [second, member]
    · cases middle with
      | nil =>
          rw [List.nil_append] at second
          simp [← second, member]
      | cons head rest =>
          have early : head ∈ sinceBegun (journal.rdropWhile fun entry => !entry.isDelivery) := by
            simp [first]
          have kept := List.mem_rtakeWhile_imp early
          rw [List.cons_append, List.cons.injEq] at second
          simp [← second.1, Entry.isBegin] at kept
  simpa using List.mem_rtakeWhile_imp late

/-- An alert was raised, and no flush that began after it has been delivered. -/
def AlertUndelivered (journal : Journal) : Prop :=
  ∃ (earlier : Journal) (time : Int64) (later : Journal),
    journal = earlier ++ .took (.alert time) :: later ∧
      ∀ before carrier after count, later = before ++ .began carrier :: after →
        .ended carrier (.ok count) ∉ after

theorem alertPoint_value_iff (journal : Journal) (now : Int64) :
    (journal.alertPoint now).value = .ofNat 1 ↔
      ∃ time, Entry.took (.alert time) ∈ journal.sinceDetached := by
  have differ : Binary64.ofNat 0 ≠ Binary64.ofNat 1 := by decide
  have member (time : Int64) : time ∈ journal.sinceDetached.alerts ↔
      Entry.took (.alert time) ∈ journal.sinceDetached := by
    constructor
    · intro raised
      obtain ⟨entry, belongs, alert⟩ := List.mem_filterMap.mp raised
      unfold Entry.alert? at alert
      split at alert
      · cases alert
        exact belongs
      · cases alert
    · intro belongs
      exact List.mem_filterMap.mpr ⟨_, belongs, rfl⟩
  unfold alertPoint
  cases latest : journal.sinceDetached.alerts.getLast? with
  | some time => exact iff_of_true rfl ⟨time, (member time).mp (List.mem_of_getLast? latest)⟩
  | none =>
      rw [List.getLast?_eq_none_iff] at latest
      simp only [← member, latest, List.not_mem_nil, exists_false, iff_false]
      exact differ

end Journal

def alertKey (tags : Tags) : SeriesId :=
  .of .internal InternalMetric.slowConsumerAlert.name tags

theorem Batch.getElem?_prepend_internal (older pending : Batch) {key : SeriesId}
    (internal : key.kind = .internal) :
    (older.prepend pending)[key]? = pending[key]?.or older[key]? := by
  rw [getElem?_prepend]
  cases older[key]? with
  | none => simp
  | some series => cases pending[key]? <;> simp [Series.prepend, internal]

namespace Collector

theorem getElem?_take_alert (collector : Collector) (intake : Intake) :
    (collector.take intake).batch[alertKey collector.internalTags]? =
      match intake with
      | .envelope _ => collector.batch[alertKey collector.internalTags]?
      | .alert time => some ⟨collector.internalTags, [⟨time, .ofNat 1⟩]⟩ := by
  cases intake with
  | envelope envelope =>
      rw [take, batch_add]
      cases sampled : envelope.sample? with
      | none => rfl
      | some sample =>
          have different : sample.key ≠ alertKey collector.internalTags := by
            intro same
            exact envelope.sample?_external sampled (congrArg SeriesId.kind same)
          simp only [Batch.getElem?_record, if_neg different]
  | alert time =>
      rw [take, raiseAlert, getElem?_setInternal]
      exact if_pos rfl

end Collector

namespace Relay

/-- What holds of the series of the alert in a relay that a journal leads to. While a flush is in
flight, the pending series is the newer one of two. -/
structure Alerted (tags : Tags) (journal : Journal) (relay : Relay) : Prop where
  idle : relay.inFlight = none → relay.collector.batch[alertKey tags]? =
    journal.queuedAlert?.map fun point => ⟨tags, [point]⟩
  raised : relay.inFlight ≠ none → relay.collector.batch[alertKey tags]? =
    journal.sinceBegun.alerts.getLast?.map fun time => ⟨tags, [⟨time, .ofNat 1⟩]⟩
  queued : ∀ flush, relay.inFlight = some flush →
    relay.collector.batch[alertKey tags]?.or flush.batch[alertKey tags]? =
      journal.queuedAlert?.map fun point => ⟨tags, [point]⟩

variable {tags : Tags} {journal : Journal}

theorem Alerted.took {relay : Relay} (alerted : Alerted tags journal relay)
    (tagged : relay.collector.internalTags = tags) (intake : Intake) :
    Alerted tags (journal ++ [.took intake])
      { relay with collector := relay.collector.take intake } := by
  have taken := relay.collector.getElem?_take_alert intake
  subst tagged
  cases intake with
  | envelope envelope =>
      constructor
      · intro idle
        rw [journal.queuedAlert?_envelope]
        exact taken.trans (alerted.idle idle)
      · intro flying
        rw [journal.sinceBegun_concat rfl]
        simpa using taken.trans (alerted.raised flying)
      · intro flush flying
        rw [journal.queuedAlert?_envelope, ← alerted.queued flush flying]
        exact congrArg (Option.or · _) taken
  | alert time =>
      constructor
      · intro idle
        rw [journal.queuedAlert?_alert]
        exact taken
      · intro flying
        rw [journal.sinceBegun_concat rfl]
        simpa using taken
      · intro flush flying
        rw [journal.queuedAlert?_alert]
        exact congrArg (Option.or · _) taken

theorem Alerted.sent {collector : Collector} (alerted : Alerted tags journal ⟨collector, none⟩)
    (tagged : collector.internalTags = tags) (now : Int64) :
    (collector.beginFlush now).1.batch[alertKey tags]? =
      some ⟨tags, [journal.alertPoint now]⟩ := by
  have refreshed := collector.getElem?_refresh_internal now .slowConsumerAlert
  have queued := alerted.idle rfl
  subst tagged
  rw [journal.alertPoint_eq]
  refine refreshed.trans ?_
  rw [Collector.current]
  change some (collector.batch[alertKey collector.internalTags]?.getD _) = _
  rw [queued]
  cases journal.queuedAlert? <;> rfl

theorem Alerted.began {collector : Collector} (alerted : Alerted tags journal ⟨collector, none⟩)
    (tagged : collector.internalTags = tags) (now : Int64) :
    Alerted tags (journal ++ [.began (collector.beginFlush now).1])
      ⟨(collector.beginFlush now).2, some (collector.beginFlush now).1⟩ := by
  have emptied : (collector.beginFlush now).2.batch[alertKey tags]? = none :=
    Std.ExtTreeMap.getElem?_empty
  constructor
  · intro idle
    simp at idle
  · intro _
    rw [journal.sinceBegun_began]
    exact emptied
  · intro flush started
    cases started
    rw [journal.queuedAlert?_began, emptied]
    exact alerted.sent tagged now

theorem Alerted.ended {collector : Collector} {flush : Flush}
    (alerted : Alerted tags journal ⟨collector, some flush⟩) (answer : Answer) :
    Alerted tags (journal ++ [.ended flush (flush.result answer)])
      ⟨collector.endFlush flush answer, none⟩ := by
  refine ⟨?_, by simp, by simp⟩
  intro _
  cases result : flush.result answer with
  | ok count =>
      rw [collector.endFlush_of_ok result, journal.queuedAlert?_delivered]
      rw [Option.map_map]
      exact alerted.raised (by simp)
  | error failure =>
      rw [collector.endFlush_of_error result, journal.queuedAlert?_failed,
        ← alerted.queued flush rfl]
      exact flush.batch.getElem?_prepend_internal collector.batch rfl

theorem Reached.alerted {deployment address : String} {relay : Relay}
    (reached : Reached (Relay.fresh deployment address) journal relay) :
    Alerted (Relay.fresh deployment address).collector.internalTags journal relay := by
  induction reached with
  | start =>
      refine ⟨?_, by simp [Relay.fresh], by simp [Relay.fresh]⟩
      intro _
      exact Std.ExtTreeMap.getElem?_empty
  | took intake before ih => exact ih.took before.standing.internalTags intake
  | began now before ih => exact ih.began before.standing.internalTags now
  | ended answer _ ih => exact ih.ended answer

/-- The journal of a relay ends with what happened since the flush of the last delivery began. What
stands before, if there was a delivery, ends with that beginning. -/
theorem Reached.settled {start relay : Relay} (reached : Reached start journal relay)
    (idle : start.inFlight = none) :
    ∃ settled, journal = settled ++ journal.sinceDetached ∧
      (settled = [] ∨ ∃ before carrier count, settled = before ++ [.began carrier] ∧
        .ended carrier (.ok count) ∈ journal.sinceDetached) := by
  have joined : journal.rdropWhile (fun entry => !entry.isDelivery) ++ journal.sinceDelivered =
      journal := List.rdropWhile_append_rtakeWhile
  unfold Journal.sinceDetached
  rcases List.eq_nil_or_concat (journal.rdropWhile fun entry => !entry.isDelivery) with
    empty | ⟨delivered, last, ends⟩
  · rw [empty] at joined ⊢
    exact ⟨[], joined.symm, Or.inl rfl⟩
  · rw [List.concat_eq_append] at ends
    have delivery := List.rdropWhile_last_not (fun entry : Entry => !entry.isDelivery) journal
      (by simp [ends])
    obtain ⟨carrier, count, same⟩ := last.isDelivery_iff.mp (by simpa [ends] using delivery)
    subst same
    rw [ends] at joined ⊢
    obtain ⟨before, during, began⟩ :=
      reached.before_ended idle (joined.symm.trans (List.append_assoc _ _ _))
    have since : Journal.sinceBegun (delivered ++ [.ended carrier (.ok count)]) =
        during.map .took ++ [.ended carrier (.ok count)] := by
      rw [began, List.append_assoc, List.cons_append]
      apply Journal.sinceBegun_split
      intro entry member
      rcases List.mem_append.mp member with taken | final
      · obtain ⟨intake, _, rfl⟩ := List.mem_map.mp taken
        rfl
      · rw [List.mem_singleton.mp final]
        rfl
    rw [since]
    refine ⟨before ++ [.began carrier], ?_, Or.inr ⟨before, carrier, count, rfl, by simp⟩⟩
    rw [began] at joined
    simpa using joined.symm

theorem Reached.raised_iff {start relay : Relay} (reached : Reached start journal relay)
    (idle : start.inFlight = none) :
    (∃ time, Entry.took (.alert time) ∈ journal.sinceDetached) ↔ journal.AlertUndelivered := by
  obtain ⟨settled, whole, ends⟩ := reached.settled idle
  constructor
  · rintro ⟨time, member⟩
    obtain ⟨earlier, later, split⟩ := List.append_of_mem member
    refine ⟨settled ++ earlier, time, later, ?_, ?_⟩
    · rw [List.append_assoc, ← split]
      exact whole
    · intro before carrier after count began delivered
      have since : journal.sinceDetached =
          (earlier ++ .took (.alert time) :: before) ++ .began carrier :: after := by
        rw [split, began, List.append_assoc, List.cons_append]
      have undelivered := Journal.undelivered_of_began since _ delivered
      cases undelivered
  · rintro ⟨earlier, time, later, split, undelivered⟩
    refine ⟨time, ?_⟩
    rcases List.append_eq_append_iff.mp (split.symm.trans whole) with
      ⟨middle, first, second⟩ | ⟨middle, _, second⟩
    · cases middle with
      | nil =>
          rw [List.nil_append] at second
          simp [← second]
      | cons head rest =>
          obtain ⟨sameHead, laterEq⟩ := List.cons.inj second
          subst sameHead
          rcases ends with empty | ⟨before, carrier, count, last, delivered⟩
          · simp [empty] at first
          · rcases Journal.split_concat (last.symm.trans first) with
              ⟨_, other, _⟩ | ⟨final, restEq, _⟩
            · cases other
            · have began : later = final ++ .began carrier :: journal.sinceDetached := by
                rw [laterEq, restEq]
                exact List.append_assoc _ _ _
              exact absurd delivered (undelivered final carrier _ count began)
    · simp [second]

/-- Of the name of the alert a flush sends one series, with one point. -/
theorem Reached.alert_sent {deployment address : String} {collector : Collector}
    (reached : Reached (Relay.fresh deployment address) journal ⟨collector, none⟩)
    (now : Int64) (key : SeriesId) (series : Series) :
    let tags := (Relay.fresh deployment address).collector.internalTags
    (collector.beginFlush now).1.batch[key]? = some series ∧ key.name = "slowConsumerAlert" ↔
      key = .of .internal "slowConsumerAlert" tags ∧
        series = ⟨tags, [journal.alertPoint now]⟩ := by
  intro tags
  have standing := reached.standing
  have sent := reached.alerted.sent standing.internalTags now
  have named : (collector.beginFlush now).1.batch.Named tags :=
    Collector.named_refresh now standing.internalTags standing.named
  constructor
  · rintro ⟨found, called⟩
    have member : key ∈ (collector.beginFlush now).1.batch :=
      Std.ExtTreeMap.mem_iff_isSome_getElem?.mpr (by simp [found])
    have isAlert : key.name = InternalMetric.slowConsumerAlert.name := called
    have same : key = alertKey tags := (named key member).eq_of_name isAlert
    rw [same, sent] at found
    exact ⟨same, (Option.some.inj found).symm⟩
  · rintro ⟨same, seriesSame⟩
    subst same seriesSame
    exact ⟨sent, rfl⟩

/-- The life of an alert in any run. Alerts are raised by the arrivals and by nothing else, and an
envelope that raises one is counted and adds its point like any other. Every flush sends one alert
series with one point, and that point tells of an alert as long as one was raised that no delivered
flush has carried. -/
theorem alert_carried_until_delivered (deployment address : String)
    (occurrences : List Occurrence) :
    let start := Relay.fresh deployment address
    let tags := start.collector.internalTags
    let relay := start.run occurrences
    let journal := start.journal occurrences
    let arrivals := occurrences.filterMap Occurrence.arrival?
    let received := arrivals.flatMap Arrival.envelopes
    journal.alerts = arrivals.flatMap Arrival.alerts ∧
      relay.collector.received = .ofNat received.length ∧
      (∀ key : SeriesId, key.kind ≠ .internal →
        (journal.delivered.flatMap fun flush => flush.batch.points key) ++
            relay.pointsInFlight key ++ relay.collector.batch.points key =
          received.filterMap fun envelope => envelope.point? key) ∧
      (∀ (envelope : Envelope) (counter : CounterEvent),
        envelope.event = .counterEvent counter → envelope.origin = some "doppler" →
        counter.name = "TruncatingBuffer.DroppedMessages" →
        envelope.point? (.of .counter "doppler.TruncatingBuffer.DroppedMessages"
            envelope.seriesTags) =
          some ⟨envelope.timestamp / 1000000000, .ofNat counter.total.toNat⟩) ∧
      ∀ (earlier : Journal) (flush : Flush) (later : Journal),
        journal = earlier ++ .began flush :: later →
        (∀ (key : SeriesId) (series : Series),
          flush.batch[key]? = some series ∧ key.name = "slowConsumerAlert" ↔
            key = .of .internal "slowConsumerAlert" tags ∧
              series = ⟨tags, [earlier.alertPoint flush.now]⟩) ∧
          ((earlier.alertPoint flush.now).value = .ofNat 1 ↔ earlier.AlertUndelivered) := by
  intro start tags relay journal arrivals received
  obtain ⟨alerts, envelopes⟩ : journal.alerts = _ ∧ journal.envelopes = received :=
    start.select_journal occurrences
  have reached := reached_run start occurrences
  refine ⟨alerts, ?_, ?_, ?_, ?_⟩
  · rw [← envelopes]
    exact reached.standing.received
  · intro key external
    rw [← envelopes]
    exact reached.points_received external
  · intro envelope counter event origin called
    have key : envelope.counterKey counter = .of .counter
        "doppler.TruncatingBuffer.DroppedMessages" envelope.seriesTags := by
      simp [Envelope.counterKey, Envelope.qualifiedName, Envelope.originText, origin, called]
    rw [← key]
    exact Envelope.point?_of_counter event
  · intro earlier flush later split
    obtain ⟨_, before, begun⟩ := reached.before_began split
    have sent := before.alert_sent flush.now
    rw [← begun] at sent
    exact ⟨sent, (earlier.alertPoint_value_iff flush.now).trans (before.raised_iff rfl)⟩

/-- The first attempt fails with no alert in it. A report of dropped messages comes in the meantime;
its alert and its counter go out with the second attempt. -/
theorem alert_carried_until_delivered_in_flight :
    let report : Envelope :=
      ⟨some "doppler", 0, none, none, none, none, [],
        .counterEvent ⟨"TruncatingBuffer.DroppedMessages", 0, 3⟩⟩
    let bytes := Text.Utf8.encode <|
      "\x7b\"origin\":\"doppler\",\"eventType\":\"CounterEvent\",\"counterEvent\":" ++
        "\x7b\"name\":\"TruncatingBuffer.DroppedMessages\",\"total\":3\x7d\x7d"
    let occurrences : List Occurrence :=
      [.beginFlush 1, .datagram 2 bytes, .endFlush (.response ⟨503, by decide⟩ none), .beginFlush 3]
    let start := Relay.fresh "cf" "10.0.0.1"
    let tags := start.collector.internalTags
    let relay := start.run occurrences
    let key : SeriesId :=
      .of .counter "doppler.TruncatingBuffer.DroppedMessages" report.seriesTags
    relay.collector.received = 1 ∧
      relay.pointsInFlight key ++ relay.collector.batch.points key = [⟨0, .ofNat 3⟩] ∧
      ∃ earlier flush, start.journal occurrences = earlier ++ [.began flush] ∧
        flush.batch[SeriesId.of .internal "slowConsumerAlert" tags]? =
          some ⟨tags, [⟨2, .ofNat 1⟩]⟩ := by
  intro report bytes occurrences start tags relay key
  have taken : Datagram.intakes (fun _ => 2) bytes = [.alert 2, .envelope report] := by
    decide +kernel
  clear_value bytes
  let first := (start.collector.beginFlush 1).1
  let flush := ((start.run (occurrences.take 3)).collector.beginFlush 3).1
  let earlier : Journal :=
    [.began first, .took (.alert 2), .took (.envelope report),
      .ended first (first.result (.response ⟨503, by decide⟩ none))]
  have split : start.journal occurrences = earlier ++ [.began flush] := by
    change [Entry.began first] ++ ((Datagram.intakes (fun _ => 2) bytes).map .took ++ _) = _
    rw [taken]
    rfl
  have received : (occurrences.filterMap Occurrence.arrival?).flatMap Arrival.envelopes =
      [report] := by
    rw [← (start.select_journal occurrences).2, split]
    rfl
  obtain ⟨-, counted, points, signal, carried⟩ :=
    alert_carried_until_delivered "cf" "10.0.0.1" occurrences
  rw [received] at counted points
  refine ⟨counted, ?_, earlier, flush, split, ?_⟩
  · have undelivered : (start.journal occurrences).delivered = [] := by
      rw [split]
      rfl
    have whole : report.timestamp / 1000000000 = 0 := by decide
    have point : report.point? key = some ⟨0, .ofNat 3⟩ := by
      rw [← whole]
      exact signal report _ rfl rfl rfl
    have held := points key (by simp [key, SeriesId.of])
    rw [undelivered, List.flatMap_nil, List.nil_append, List.filterMap_cons, point] at held
    exact held
  · exact (((carried earlier flush [] split).1 _ _).mpr ⟨rfl, rfl⟩).1

end Relay

end TelemetryRelay
