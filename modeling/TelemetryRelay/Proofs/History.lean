import TelemetryRelay.Proofs.Intake

/-!
The history of a run. The journal of a run lists what was taken in, which flushes began and how they
ended; `Reached` says which relay a journal leads to, one entry at a time, so what holds along every
run is proved by induction on it.
-/

namespace TelemetryRelay

inductive Entry
  | took (intake : Intake)
  | began (flush : Flush)
  | ended (flush : Flush) (result : Except DeliveryFailure Nat)

namespace Entry

def isBegin : Entry → Bool
  | .began _ => true
  | _ => false

def isDelivery : Entry → Bool
  | .ended _ (.ok _) => true
  | _ => false

theorem isDelivery_iff (entry : Entry) :
    entry.isDelivery = true ↔ ∃ flush count, entry = .ended flush (.ok count) := by
  constructor
  · intro delivery
    unfold isDelivery at delivery
    split at delivery
    · exact ⟨_, _, rfl⟩
    · cases delivery
  · rintro ⟨flush, count, rfl⟩
    rfl

@[simp] def envelope? : Entry → Option Envelope
  | .took (.envelope envelope) => some envelope
  | _ => none

@[simp] def alert? : Entry → Option Int64
  | .took (.alert time) => some time
  | _ => none

@[simp] def attempt? : Entry → Option Flush
  | .began flush => some flush
  | _ => none

@[simp] def delivered? : Entry → Option Flush
  | .ended flush (.ok _) => some flush
  | _ => none

@[simp] def count? : Entry → Option Nat
  | .ended _ (.ok count) => some count
  | _ => none

end Entry

abbrev Journal := List Entry

namespace Journal

def select {α : Type} (choose : Entry → Option α) (journal : Journal) : List α :=
  journal.filterMap choose

@[simp] theorem select_nil {α : Type} (choose : Entry → Option α) : select choose [] = [] := rfl

@[simp] theorem select_cons {α : Type} (choose : Entry → Option α) (entry : Entry)
    (rest : Journal) :
    select choose (entry :: rest) = (choose entry).toList ++ select choose rest := by
  cases chosen : choose entry <;> simp [select, chosen]

@[simp] theorem select_append {α : Type} (choose : Entry → Option α) (first second : Journal) :
    select choose (first ++ second) = select choose first ++ select choose second :=
  List.filterMap_append

@[simp] def envelopes (journal : Journal) : List Envelope := journal.select Entry.envelope?

@[simp] def alerts (journal : Journal) : List Int64 := journal.select Entry.alert?

@[simp] def attempts (journal : Journal) : List Flush := journal.select Entry.attempt?

@[simp] def delivered (journal : Journal) : List Flush := journal.select Entry.delivered?

@[simp] def counts (journal : Journal) : List Nat := journal.select Entry.count?

theorem counts_took (intakes : List Intake) :
    Journal.counts (intakes.map .took) = [] := by
  induction intakes with
  | nil => rfl
  | cons intake rest ih =>
      rw [List.map_cons, counts, select_cons, ← counts, ih]
      rfl

theorem split_concat {journal earlier later : Journal} {last entry : Entry}
    (split : journal ++ [last] = earlier ++ entry :: later) :
    (journal = earlier ∧ last = entry ∧ later = []) ∨
      ∃ rest, later = rest ++ [last] ∧ journal = earlier ++ entry :: rest := by
  rcases List.eq_nil_or_concat later with empty | ⟨rest, final, ends⟩
  · subst empty
    obtain ⟨same, lastSame⟩ := List.append_inj' split rfl
    exact Or.inl ⟨same, List.singleton_inj.mp lastSame, rfl⟩
  · subst ends
    rw [List.concat_eq_append, ← List.cons_append, ← List.append_assoc] at split
    obtain ⟨same, lastSame⟩ := List.append_inj' split rfl
    exact Or.inr ⟨rest, by rw [List.singleton_inj.mp lastSame, List.concat_eq_append], same⟩

end Journal

/-- The envelopes of an arrival: each envelope of a datagram is one of them, whatever it reports. -/
def Arrival.envelopes : Arrival → List Envelope
  | .envelope arrived => [arrived]
  | .alert _ => []
  | .datagram _ bytes =>
    match Datagram.lines bytes with
    | .error _ => []
    | .ok lines => Datagram.envelopes lines

def Envelope.alert? (envelope : Envelope) (time : Int64) : Option Int64 :=
  match envelope.event with
  | .counterEvent counter =>
    if envelope.origin = some "doppler" ∧ counter.name = "TruncatingBuffer.DroppedMessages" then
      some time
    else none
  | _ => none

def Arrival.alerts : Arrival → List Int64
  | .envelope _ => []
  | .alert now => [now]
  | .datagram clock bytes =>
    match Datagram.lines bytes with
    | .error _ => []
    | .ok lines =>
      (Datagram.envelopes lines).zipIdx.filterMap
        fun (arrived, place) => arrived.alert? (clock place)

def Occurrence.arrival? : Occurrence → Option Arrival
  | .arrival arrived => some arrived
  | _ => none

theorem Envelope.intakes_eq (envelope : Envelope) (time : Int64) :
    envelope.intakes time = ((envelope.alert? time).map .alert).toList ++ [.envelope envelope] := by
  unfold intakes
  by_cases reports : envelope.reportsSlowConsumer = true
  · obtain ⟨origin, counter, event, name⟩ := envelope.reportsSlowConsumer_iff.mp reports
    simp [reports, alert?, event, origin, name]
  · have silent : envelope.alert? time = none := by
      unfold alert?
      split
      · rename_i counter event
        apply if_neg
        rintro ⟨origin, name⟩
        exact reports (envelope.reportsSlowConsumer_iff.mpr ⟨origin, counter, event, name⟩)
      · rfl
    simp [reports, silent]

theorem Datagram.select_intakes (clock : Nat → Int64) (placed : List (Envelope × Nat)) :
    let entries : Journal :=
      (placed.flatMap fun (envelope, place) => envelope.intakes (clock place)).map .took
    entries.alerts = (placed.filterMap fun (envelope, place) => envelope.alert? (clock place)) ∧
      entries.envelopes = placed.map Prod.fst := by
  induction placed with
  | nil => exact ⟨rfl, rfl⟩
  | cons first rest ih =>
      obtain ⟨envelope, place⟩ := first
      obtain ⟨alerts, envelopes⟩ := ih
      simp only [Journal.alerts, Journal.envelopes] at alerts envelopes ⊢
      cases raised : envelope.alert? (clock place) <;>
        simp [envelope.intakes_eq, raised, alerts, envelopes]

theorem Arrival.select_intakes (arrival : Arrival) :
    Journal.alerts (arrival.intakes.map .took) = arrival.alerts ∧
      Journal.envelopes (arrival.intakes.map .took) = arrival.envelopes := by
  cases arrival with
  | envelope arrived => exact ⟨rfl, rfl⟩
  | alert now => exact ⟨rfl, rfl⟩
  | datagram clock bytes =>
      simp only [intakes, Datagram.intakes, alerts, envelopes]
      cases Datagram.lines bytes with
      | error fault => exact ⟨rfl, rfl⟩
      | ok lines =>
          have selected := Datagram.select_intakes clock (Datagram.envelopes lines).zipIdx
          rwa [List.zipIdx_map_fst] at selected

namespace Relay

/-- What an occurrence adds to the journal. A flush that has to wait for another is no entry. -/
def entries (relay : Relay) : Occurrence → Journal
  | .arrival arrival => arrival.intakes.map .took
  | .beginFlush now =>
    match relay.inFlight with
    | some _ => []
    | none => [.began (relay.collector.beginFlush now).1]
  | .endFlush answer =>
    match relay.inFlight with
    | some flush => [.ended flush (flush.result answer)]
    | none => []

def journal (relay : Relay) : List Occurrence → Journal
  | [] => []
  | occurrence :: rest => relay.entries occurrence ++ (relay.step occurrence).journal rest

theorem journal_append (relay : Relay) (first second : List Occurrence) :
    relay.journal (first ++ second) =
      relay.journal first ++ (relay.run first).journal second := by
  induction first generalizing relay with
  | nil => rfl
  | cons occurrence rest ih =>
      rw [List.cons_append, journal, ih, journal, List.append_assoc]
      rfl

theorem select_journal (relay : Relay) (occurrences : List Occurrence) :
    (relay.journal occurrences).alerts =
        (occurrences.filterMap Occurrence.arrival?).flatMap Arrival.alerts ∧
      (relay.journal occurrences).envelopes =
        (occurrences.filterMap Occurrence.arrival?).flatMap Arrival.envelopes := by
  induction occurrences generalizing relay with
  | nil => exact ⟨rfl, rfl⟩
  | cons occurrence rest ih =>
      obtain ⟨alerts, envelopes⟩ := ih (relay.step occurrence)
      simp only [Journal.alerts, Journal.envelopes] at alerts envelopes ⊢
      rw [journal, Journal.select_append, Journal.select_append, alerts, envelopes]
      cases occurrence with
      | arrival arrival =>
          have selected := arrival.select_intakes
          simp only [Journal.alerts, Journal.envelopes] at selected
          simp [entries, Occurrence.arrival?, selected]
      | beginFlush now =>
          cases inFlight : relay.inFlight <;>
            simp [entries, Occurrence.arrival?, List.filterMap_cons, inFlight]
      | endFlush answer =>
          cases inFlight : relay.inFlight with
          | none => simp [entries, Occurrence.arrival?, List.filterMap_cons, inFlight]
          | some flush =>
              cases result : flush.result answer <;>
                simp [entries, Occurrence.arrival?, List.filterMap_cons, inFlight, result]

theorem run_arrivals (relay : Relay) (arrivals : List Arrival) :
    relay.run (arrivals.map .arrival) =
      { relay with collector := relay.collector.gather arrivals } := by
  induction arrivals generalizing relay with
  | nil => rfl
  | cons arrival rest ih => exact ih (relay.step (.arrival arrival))

def round (now : Int64) (during : List Arrival) (answer : Answer) : List Occurrence :=
  .beginFlush now :: during.map .arrival ++ [.endFlush answer]

theorem run_round (collector : Collector) (now : Int64) (during : List Arrival)
    (answer : Answer) :
    Relay.run ⟨collector, none⟩ (round now during answer) =
      ⟨((collector.beginFlush now).2.gather during).endFlush (collector.beginFlush now).1 answer,
        none⟩ := by
  have begun : Relay.run ⟨collector, none⟩ [.beginFlush now] =
    ⟨(collector.beginFlush now).2, some (collector.beginFlush now).1⟩ := rfl
  have split : round now during answer =
      [.beginFlush now] ++ (during.map .arrival ++ [.endFlush answer]) := rfl
  rw [split, run_append, begun, run_append, run_arrivals]
  rfl

theorem journal_arrivals (relay : Relay) (arrivals : List Arrival) :
    relay.journal (arrivals.map .arrival) = (arrivals.flatMap Arrival.intakes).map .took := by
  induction arrivals generalizing relay with
  | nil => rfl
  | cons arrival rest ih =>
      rw [List.map_cons, journal, ih, List.flatMap_cons, List.map_append]
      rfl

theorem journal_round (collector : Collector) (now : Int64) (during : List Arrival)
    (answer : Answer) :
    Relay.journal ⟨collector, none⟩ (round now during answer) =
      .began (collector.beginFlush now).1 :: (during.flatMap Arrival.intakes).map .took ++
        [.ended (collector.beginFlush now).1 ((collector.beginFlush now).1.result answer)] := by
  rw [round, List.cons_append, journal, journal_append, journal_arrivals, run_arrivals]
  rfl

/-- The relays that can be reached from `start`, each with the journal that leads to it. -/
inductive Reached (start : Relay) : Journal → Relay → Prop
  | start : Reached start [] start
  | took {journal relay} (intake : Intake) : Reached start journal relay →
      Reached start (journal ++ [.took intake])
        { relay with collector := relay.collector.take intake }
  | began {journal collector} (now : Int64) : Reached start journal ⟨collector, none⟩ →
      Reached start (journal ++ [.began (collector.beginFlush now).1])
        ⟨(collector.beginFlush now).2, some (collector.beginFlush now).1⟩
  | ended {journal collector flush} (answer : Answer) :
      Reached start journal ⟨collector, some flush⟩ →
      Reached start (journal ++ [.ended flush (flush.result answer)])
        ⟨collector.endFlush flush answer, none⟩

namespace Reached

variable {start relay : Relay} {journal : Journal}

theorem intakes (reached : Reached start journal relay) (intakes : List Intake) :
    Reached start (journal ++ intakes.map .took)
      { relay with collector := intakes.foldl Collector.take relay.collector } := by
  induction intakes generalizing journal relay with
  | nil => simpa using reached
  | cons intake rest ih => simpa using ih (reached.took intake)

theorem step (reached : Reached start journal relay) (occurrence : Occurrence) :
    Reached start (journal ++ relay.entries occurrence) (relay.step occurrence) := by
  obtain ⟨collector, inFlight⟩ := relay
  cases occurrence with
  | arrival arrival =>
      simp only [entries, Relay.step, collector.arrive_eq_foldl]
      exact reached.intakes arrival.intakes
  | beginFlush now =>
      cases inFlight with
      | none => exact reached.began now
      | some flush => simpa [entries, Relay.step] using reached
  | endFlush answer =>
      cases inFlight with
      | none => simpa [entries, Relay.step] using reached
      | some flush => exact reached.ended answer

theorem run (reached : Reached start journal relay) (occurrences : List Occurrence) :
    Reached start (journal ++ relay.journal occurrences) (relay.run occurrences) := by
  induction occurrences generalizing journal relay with
  | nil => simpa [Relay.journal, Relay.run] using reached
  | cons occurrence rest ih =>
      have next := ih (reached.step occurrence)
      rwa [List.append_assoc] at next

theorem in_flight (reached : Reached start journal relay) (idle : start.inFlight = none) :
    ∀ flush, relay.inFlight = some flush →
      ∃ (before : Journal) (during : List Intake),
        journal = before ++ .began flush :: during.map .took := by
  induction reached with
  | start =>
      intro flush flying
      simp [idle] at flying
  | took intake _ ih =>
      intro flush flying
      obtain ⟨before, during, split⟩ := ih flush flying
      exact ⟨before, during ++ [intake], by simp [split]⟩
  | @began journal _ now _ _ =>
      intro flush flying
      cases flying
      exact ⟨journal, [], rfl⟩
  | ended answer _ _ =>
      intro flush flying
      cases flying

theorem before_began (reached : Reached start journal relay) {earlier later : Journal}
    {flush : Flush} (split : journal = earlier ++ .began flush :: later) :
    ∃ collector, Reached start earlier ⟨collector, none⟩ ∧
      flush = (collector.beginFlush flush.now).1 := by
  induction reached generalizing later with
  | start => simp at split
  | took intake _ ih =>
      rcases Journal.split_concat split with ⟨_, other, _⟩ | ⟨rest, _, before⟩
      · cases other
      · exact ih before
  | @began _ collector now before ih =>
      rcases Journal.split_concat split with ⟨same, began, _⟩ | ⟨rest, _, before⟩
      · subst same
        cases began
        exact ⟨collector, before, rfl⟩
      · exact ih before
  | ended answer _ ih =>
      rcases Journal.split_concat split with ⟨_, other, _⟩ | ⟨rest, _, before⟩
      · cases other
      · exact ih before

theorem before_ended (reached : Reached start journal relay) (idle : start.inFlight = none)
    {earlier later : Journal} {flush : Flush} {result : Except DeliveryFailure Nat}
    (split : journal = earlier ++ .ended flush result :: later) :
    ∃ (before : Journal) (during : List Intake),
      earlier = before ++ .began flush :: during.map .took := by
  induction reached generalizing later with
  | start => simp at split
  | took intake _ ih =>
      rcases Journal.split_concat split with ⟨_, other, _⟩ | ⟨rest, _, before⟩
      · cases other
      · exact ih before
  | began now _ ih =>
      rcases Journal.split_concat split with ⟨_, other, _⟩ | ⟨rest, _, before⟩
      · cases other
      · exact ih before
  | ended answer before ih =>
      rcases Journal.split_concat split with ⟨same, ended, _⟩ | ⟨rest, _, earlierSplit⟩
      · subst same
        cases ended
        exact before.in_flight idle _ rfl
      · exact ih earlierSplit

end Reached

theorem reached_run (start : Relay) (occurrences : List Occurrence) :
    Reached start (start.journal occurrences) (start.run occurrences) := by
  simpa using Reached.start.run occurrences

end Relay

end TelemetryRelay
