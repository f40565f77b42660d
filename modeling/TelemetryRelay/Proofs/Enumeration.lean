import TelemetryRelay.Proofs.Grouping
import TelemetryRelay.Proofs.History
import TelemetryRelay.Proofs.WellFormed

/-!
Runs whose tags are enumerated. The free tags of an envelope are a table, and a table is enumerated
in whatever order; here the order is an input of the run, one for each operation.
-/

namespace TelemetryRelay

/-- An order in which free tags are enumerated: those of each envelope of a datagram in an order of
their own. -/
structure Enumeration where
  arrange : Nat → List Tag → List Tag
  perm : ∀ place tags, (arrange place tags).Perm tags

namespace Enumeration

def given : Enumeration := ⟨fun _ tags => tags, fun _ tags => .refl tags⟩

def arranged (enumeration : Enumeration) (place : Nat) (envelope : Envelope) : Envelope :=
  { envelope with tags := enumeration.arrange place envelope.tags }

end Enumeration

def Collector.arriveIn (enumeration : Enumeration) (collector : Collector) :
    Arrival → Collector
  | .envelope envelope => collector.add (enumeration.arranged 0 envelope)
  | .alert now => collector.raiseAlert now
  | .datagram clock bytes =>
    match Datagram.lines bytes with
    | .error _ => collector
    | .ok lines =>
      (Datagram.envelopes lines).zipIdx.foldl
        (fun collector (arrived, place) =>
          collector.accept (clock place) (enumeration.arranged place arrived)) collector

def Arrival.noticesIn (enumeration : Enumeration) : Arrival → List Notice
  | .envelope arrived => (enumeration.arranged 0 arrived).notices
  | .alert _ => [.alertRaised]
  | .datagram _ bytes =>
    match Datagram.lines bytes with
    | .error fault => [.malformedDatagram fault]
    | .ok lines =>
      let envelopes := (Datagram.envelopes lines).zipIdx.map fun (arrived, place) =>
        enumeration.arranged place arrived
      lines.filterMap Datagram.undecodable? ++
        if envelopes.isEmpty then []
        else .consuming envelopes.length :: envelopes.flatMap Datagram.envelopeNotices

def Arrival.notices : Arrival → List Notice
  | .envelope arrived => arrived.notices
  | .alert _ => [.alertRaised]
  | .datagram _ bytes => Datagram.notices bytes

/-- What can be seen of an operation. A payload is posted with the keys of its series, in order. -/
inductive Report
  | noticed (notices : List Notice)
  | posted (keys : List SeriesId) (payload : Payload)
  | ended (result : Except DeliveryFailure Nat)
  | silent

def Operation.envelopes : Operation → List Envelope
  | .arrival arrived => arrived.envelopes
  | _ => []

namespace Holdings

def stepIn (enumeration : Enumeration) (holdings : Holdings) : Operation → Holdings
  | .arrival arrived =>
    { holdings with collector := holdings.collector.arriveIn enumeration arrived }
  | operation => holdings.step operation

def report (enumeration : Enumeration) (lead : String) (holdings : Holdings) : Operation → Report
  | .arrival arrived => .noticed (arrived.noticesIn enumeration)
  | .beginFlush now =>
    let flush := (holdings.collector.beginFlush now).1
    .posted flush.batch.keys (flush.payload lead)
  | .endFlush now place answer =>
    match holdings.detached[place]? with
    | none => .silent
    | some batch => .ended (Flush.result ⟨now, batch⟩ answer)
  | _ => .silent

/-- Where operations lead and what they report. Each of them has its own enumeration. -/
def runIn (lead : String) (enumerations : Nat → Enumeration) (holdings : Holdings) :
    List Operation → Holdings × List Report
  | [] => (holdings, [])
  | operation :: rest =>
    let (final, reports) := (holdings.stepIn (enumerations 0) operation).runIn lead
      (fun step => enumerations (step + 1)) rest
    (final, holdings.report (enumerations 0) lead operation :: reports)

theorem stepIn_given (holdings : Holdings) (operation : Operation) :
    holdings.stepIn .given operation = holdings.step operation := by
  cases operation with
  | arrival arrival => cases arrival <;> rfl
  | _ => rfl

theorem runIn_given (lead : String) (holdings : Holdings) (operations : List Operation) :
    (holdings.runIn lead (fun _ => .given) operations).1 = holdings.run operations := by
  induction operations generalizing holdings with
  | nil => rfl
  | cons operation rest ih =>
      refine (ih (holdings.stepIn .given operation)).trans ?_
      rw [stepIn_given]
      rfl

end Holdings

namespace Envelope

def fixedLabels (envelope : Envelope) : List String :=
  [("deployment", envelope.deployment), ("job", envelope.job), ("index", envelope.index),
    ("ip", envelope.ip)].filterMap fun (key, value) => label? key value

def freeLabels (envelope : Envelope) : List String :=
  envelope.tags.filterMap fun tag => label? tag.key (some tag.value)

theorem labels_eq (envelope : Envelope) :
    envelope.labels = envelope.fixedLabels ++ envelope.freeLabels := by
  rw [labels, List.filterMap_append, List.filterMap_map]
  rfl

def Tagged (envelope : Envelope) (tags : Tags) : Prop :=
  ∃ free : List String,
    free.Perm envelope.freeLabels ∧ tags.written = envelope.fixedLabels ++ free

variable (enumeration : Enumeration) (place : Nat) (envelope : Envelope)

theorem tagged_arranged : envelope.Tagged (enumeration.arranged place envelope).seriesTags := by
  refine ⟨(enumeration.arranged place envelope).freeLabels, ?_, ?_⟩
  · exact (enumeration.perm place envelope.tags).filterMap _
  · rw [written_seriesTags, labels_eq]
    rfl

theorem Tagged.perm {envelope : Envelope} {tags : Tags} (tagged : envelope.Tagged tags) :
    tags.written.Perm envelope.seriesTags.written := by
  obtain ⟨free, same, written⟩ := tagged
  rw [written, written_seriesTags, labels_eq]
  exact same.append_left _

theorem sample?_arranged :
    (enumeration.arranged place envelope).sample? =
      envelope.sample?.map fun sample =>
        { sample with tags := (enumeration.arranged place envelope).seriesTags } := by
  have digest : (enumeration.arranged place envelope).seriesTags.digest =
      envelope.seriesTags.digest :=
    Tags.digest_eq_of_perm (envelope.tagged_arranged enumeration place).perm
  have measured : (enumeration.arranged place envelope).measurement? = envelope.measurement? := rfl
  unfold sample?
  rw [measured]
  cases envelope.measurement? with
  | none => rfl
  | some measurement =>
      by_cases finite : measurement.value.isFinite = true
      · simp only [finite, if_true, Option.map_some, SeriesId.of, digest]
        rfl
      · simp [finite]

theorem key?_of_sample {envelope : Envelope} {sample : Sample}
    (sampled : envelope.sample? = some sample) : envelope.key? = some sample.key := by
  obtain ⟨measurement, measured, -, rfl⟩ := envelope.sample?_eq_some sampled
  rw [key?, measured]
  rfl

end Envelope

theorem Arrival.noticesIn_eq (enumeration : Enumeration) (arrival : Arrival) :
    arrival.noticesIn enumeration = arrival.notices := by
  cases arrival with
  | envelope arrived => rfl
  | alert now => rfl
  | datagram clock bytes =>
      simp only [noticesIn, notices, Datagram.notices]
      cases Datagram.lines bytes with
      | error fault => rfl
      | ok lines =>
          have empty : (Datagram.envelopes lines).zipIdx.isEmpty =
              (Datagram.envelopes lines).isEmpty := by
            cases Datagram.envelopes lines <;> rfl
          have each : (Datagram.envelopes lines).zipIdx.flatMap
                (fun entry => Datagram.envelopeNotices (enumeration.arranged entry.2 entry.1)) =
              (Datagram.envelopes lines).flatMap Datagram.envelopeNotices := by
            conv_rhs => rw [← List.zipIdx_map_fst 0 (Datagram.envelopes lines), List.flatMap_map]
            rfl
          simp only [List.isEmpty_map, List.length_map, List.length_zipIdx, List.flatMap_map, each,
            empty]

end TelemetryRelay
