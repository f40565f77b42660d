import TelemetryRelay.Line
import TelemetryRelay.Proofs.Conservation
import TelemetryRelay.Proofs.Enumeration

/-!
What becomes of a timestamp. It is cut to whole seconds when its envelope is added and multiplied
back when the line of its series is written: what is lost is the fraction of a second, on either
side of the epoch, and the line ends in the rest however often its batch was put back.
-/

namespace TelemetryRelay

namespace Line

/-- The whole seconds of a timestamp in nanoseconds, the fraction dropped towards the epoch. -/
structure WholeSeconds (timestamp time : Int) : Prop where
  seconds : 1000000000 ∣ time
  inside : time.natAbs ≤ timestamp.natAbs
  near : (timestamp - time).natAbs < 1000000000
  side : time = 0 ∨ time.sign = timestamp.sign

theorem toInt_seconds (timestamp : Int64) :
    (timestamp / 1000000000).toInt = timestamp.toInt.tdiv 1000000000 :=
  Int64.toInt_div_of_ne_right _ _ (by decide)

theorem tdiv_bounds (timestamp : Int) :
    let whole := timestamp.tdiv 1000000000 * 1000000000
    (0 ≤ timestamp → 0 ≤ whole ∧ whole ≤ timestamp ∧ timestamp < whole + 1000000000) ∧
      (timestamp ≤ 0 → whole ≤ 0 ∧ timestamp ≤ whole ∧ whole - 1000000000 < timestamp) := by
  intro whole
  constructor
  · intro later
    have quotient : timestamp.tdiv 1000000000 = timestamp / 1000000000 :=
      Int.tdiv_eq_ediv_of_nonneg later
    omega
  · intro earlier
    have quotient : timestamp.tdiv 1000000000 = -(-timestamp / 1000000000) := by
      rw [← Int.tdiv_eq_ediv_of_nonneg (Int.neg_nonneg_of_nonpos earlier), Int.neg_tdiv,
        Int.neg_neg]
    omega

theorem wholeSeconds_tdiv (timestamp : Int) :
    WholeSeconds timestamp (timestamp.tdiv 1000000000 * 1000000000) := by
  obtain ⟨later, earlier⟩ := tdiv_bounds timestamp
  have side : timestamp.tdiv 1000000000 * 1000000000 = 0 ∨
      (timestamp.tdiv 1000000000 * 1000000000).sign = timestamp.sign := by
    rcases Int.lt_trichotomy (timestamp.tdiv 1000000000 * 1000000000) 0 with
      negative | zero | positive
    · have before : timestamp < 0 := by omega
      exact .inr ((Int.sign_eq_neg_one_of_neg negative).trans
        (Int.sign_eq_neg_one_of_neg before).symm)
    · exact .inl zero
    · have after : 0 < timestamp := by omega
      exact .inr ((Int.sign_eq_one_of_pos positive).trans (Int.sign_eq_one_of_pos after).symm)
  exact ⟨Int.dvd_mul_left _ _, by omega, by omega, side⟩

theorem nanoseconds_seconds (timestamp : Int64) :
    nanoseconds (timestamp / 1000000000) = timestamp.toInt.tdiv 1000000000 * 1000000000 := by
  have least := timestamp.le_toInt
  have greatest := timestamp.toInt_lt
  obtain ⟨later, earlier⟩ := tdiv_bounds timestamp.toInt
  rw [nanoseconds, toInt_seconds]
  omega

theorem nanoseconds_seconds_mono {earlier later : Int64} (ordered : earlier ≤ later) :
    nanoseconds (earlier / 1000000000) ≤ nanoseconds (later / 1000000000) := by
  rw [nanoseconds_seconds, nanoseconds_seconds]
  exact Int.mul_le_mul_of_nonneg_right
    (Int.tdiv_le_tdiv (by decide) (Int64.le_iff_toInt_le.mp ordered)) (by decide)

def EndsIn (line : String) (time : Int) : Prop :=
  ∃ front, line = front ++ " " ++ toString time ++ "\n"

theorem endsIn_render (lead : String) (now : Int64) (name : String) {series : Series}
    {first : Point} (oldest : series.points.head? = some first) :
    EndsIn (render lead now name series) (nanoseconds first.seconds) := by
  obtain ⟨rest, points⟩ := List.head?_eq_some_iff.mp oldest
  refine ⟨head lead name series.tags ++ " " ++ fields series.points, ?_⟩
  rw [render, points, time]

end Line

theorem Envelope.seconds_of_point? {envelope : Envelope} {key : SeriesId} {point : Point}
    (worth : envelope.point? key = some point) :
    point.seconds = envelope.timestamp / 1000000000 := by
  unfold point? at worth
  split at worth
  · cases worth
  · split at worth
    · cases worth
      rfl
    · cases worth

theorem Envelope.external_of_point? {envelope : Envelope} {key : SeriesId} {point : Point}
    (worth : envelope.point? key = some point) : key.kind ≠ .internal := by
  rw [point?_eq] at worth
  cases sampled : envelope.sample? with
  | none =>
      rw [sampled] at worth
      cases worth
  | some sample =>
      simp only [sampled] at worth
      split at worth
      · rename_i same
        exact same ▸ envelope.sample?_external sampled
      · cases worth

theorem Envelope.endsIn_render {envelope : Envelope} {key : SeriesId} {point : Point}
    (worth : envelope.point? key = some point) {series : Series}
    (oldest : series.points.head? = some point) (lead : String) (now : Int64) :
    Line.EndsIn (Line.render lead now key.name series)
      (Line.nanoseconds (envelope.timestamp / 1000000000)) :=
  envelope.seconds_of_point? worth ▸ Line.endsIn_render lead now key.name oldest

namespace Batch

def From (envelopes : List Envelope) (batch : Batch) : Prop :=
  ∀ key : SeriesId, key.kind ≠ .internal → ∀ point ∈ batch.points key,
    ∃ envelope ∈ envelopes, envelope.point? key = some point

theorem From.mono {envelopes more : List Envelope} {batch : Batch} (origin : batch.From envelopes)
    (fewer : envelopes ⊆ more) : batch.From more := by
  intro key external point member
  obtain ⟨envelope, belongs, worth⟩ := origin key external point member
  exact ⟨envelope, fewer belongs, worth⟩

theorem From.of_points {envelopes : List Envelope} {batch other : Batch}
    (origin : batch.From envelopes)
    (same : ∀ key : SeriesId, key.kind ≠ .internal → other.points key = batch.points key) :
    other.From envelopes := by
  intro key external point member
  rw [same key external] at member
  exact origin key external point member

theorem From.prepend {envelopes : List Envelope} {older pending : Batch}
    (undelivered : older.From envelopes) (origin : pending.From envelopes) :
    (older.prepend pending).From envelopes := by
  intro key external point member
  rw [points_prepend _ _ _ external] at member
  rcases List.mem_append.mp member with before | after
  · exact undelivered key external point before
  · exact origin key external point after

theorem From.arrive {envelopes : List Envelope} {collector : Collector}
    (origin : collector.batch.From envelopes) (arrival : Arrival) :
    (collector.arrive arrival).batch.From (envelopes ++ arrival.envelopes) := by
  intro key external point member
  rw [collector.points_arrive arrival external] at member
  rcases List.mem_append.mp member with before | arrived
  · exact origin.mono (List.subset_append_left _ _) key external point before
  · obtain ⟨envelope, belongs, worth⟩ := List.mem_filterMap.mp arrived
    exact ⟨envelope, List.mem_append_right _ belongs, worth⟩

end Batch

namespace Holdings

def From (envelopes : List Envelope) (holdings : Holdings) : Prop :=
  ∀ batch ∈ holdings.batches, batch.From envelopes

variable {envelopes more : List Envelope} {holdings : Holdings}

theorem From.mono (origin : holdings.From envelopes) (fewer : envelopes ⊆ more) :
    holdings.From more :=
  fun batch member => (origin batch member).mono fewer

theorem From.collected (origin : holdings.From envelopes) {collector : Collector}
    (batch : collector.batch.From envelopes) :
    From envelopes { holdings with collector := collector } :=
  List.forall_mem_cons.mpr ⟨batch, fun other member => origin other (List.mem_cons_of_mem _ member)⟩

theorem From.parted (origin : holdings.From envelopes) {batch : Batch} {rest : Collector}
    (detached : batch.From envelopes) (empty : rest.batch = ∅) :
    From envelopes ⟨rest, holdings.detached ++ [batch]⟩ := by
  refine List.forall_mem_cons.mpr ⟨?_, ?_⟩
  · intro key external point member
    rw [empty, Batch.points_empty] at member
    cases member
  · intro other member
    rcases List.mem_append.mp member with earlier | latest
    · exact origin other (List.mem_cons_of_mem _ earlier)
    · exact List.mem_singleton.mp latest ▸ detached

theorem From.reattached (origin : holdings.From envelopes) {place : Nat} {batch : Batch}
    (found : holdings.detached[place]? = some batch) :
    (holdings.collector.reattach batch).batch.From envelopes :=
  Batch.From.prepend (origin batch (List.mem_cons_of_mem _ (List.mem_of_getElem? found)))
    (origin _ List.mem_cons_self)

theorem From.step (origin : holdings.From envelopes) (operation : Operation) :
    (holdings.step operation).From (envelopes ++ operation.envelopes) := by
  have pending := origin _ List.mem_cons_self
  have fewer := List.subset_append_left envelopes operation.envelopes
  have refreshed (now : Int64) : (holdings.collector.refresh now).batch.From envelopes :=
    pending.of_points fun key external => holdings.collector.points_refresh now external
  cases operation with
  | arrival arrival => exact (origin.mono fewer).collected (pending.arrive arrival)
  | refresh now => exact (origin.collected (refreshed now)).mono fewer
  | detach => exact (origin.parted pending rfl).mono fewer
  | countSent count => exact (origin.collected pending).mono fewer
  | beginFlush now => exact (origin.parted (refreshed now) rfl).mono fewer
  | reattach place =>
      cases found : holdings.detached[place]? with
      | none => simpa only [Holdings.step, found] using origin.mono fewer
      | some batch =>
          simp only [Holdings.step, found]
          exact (origin.collected (origin.reattached found)).mono fewer
  | endFlush now place answer =>
      cases found : holdings.detached[place]? with
      | none => simpa only [Holdings.step, found] using origin.mono fewer
      | some batch =>
          simp only [Holdings.step, found]
          refine (origin.collected ?_).mono fewer
          cases result : Flush.result ⟨now, batch⟩ answer with
          | ok count =>
              rw [Collector.endFlush_of_ok _ result]
              exact pending
          | error failure =>
              rw [Collector.endFlush_of_error _ result]
              exact origin.reattached found

theorem From.run (origin : holdings.From envelopes) (operations : List Operation) :
    (holdings.run operations).From (envelopes ++ operations.flatMap Operation.envelopes) := by
  induction operations generalizing holdings envelopes with
  | nil => simpa [Holdings.run] using origin
  | cons operation rest ih =>
      rw [List.flatMap_cons, ← List.append_assoc]
      exact ih (origin.step operation)

theorem from_fresh (deployment address : String) : From [] (.fresh deployment address) := by
  intro batch member key external point inside
  have empty : batch = ∅ := by simpa [batches, Holdings.fresh, Collector.fresh] using member
  rw [empty, Batch.points_empty] at inside
  cases inside

end Holdings

namespace Relay

def batches (relay : Relay) : List Batch :=
  (relay.inFlight.map Flush.batch).toList ++ [relay.collector.batch]

theorem pointsHeld_eq_flatMap (relay : Relay) (key : SeriesId) :
    relay.pointsHeld key = relay.batches.flatMap fun batch => batch.points key := by
  unfold pointsHeld pointsInFlight batches
  cases relay.inFlight <;> simp

theorem exists_series_of_pointsHeld {relay : Relay} {key : SeriesId} {first : Point}
    (oldest : (relay.pointsHeld key).head? = some first) :
    ∃ batch ∈ relay.batches, ∃ series, batch[key]? = some series ∧
      series.points.head? = some first := by
  rw [pointsHeld_eq_flatMap] at oldest
  generalize relay.batches = batches at oldest ⊢
  induction batches with
  | nil => cases oldest
  | cons batch rest ih =>
      rw [List.flatMap_cons] at oldest
      unfold Batch.points at oldest
      cases found : batch[key]? with
      | none =>
          rw [found, List.nil_append] at oldest
          obtain ⟨other, member, series⟩ := ih oldest
          exact ⟨other, List.mem_cons_of_mem _ member, series⟩
      | some series =>
          rw [found, List.head?_append] at oldest
          cases points : series.points.head? with
          | none =>
              rw [points, Option.none_or] at oldest
              obtain ⟨other, member, series⟩ := ih oldest
              exact ⟨other, List.mem_cons_of_mem _ member, series⟩
          | some point =>
              rw [points, Option.some_or] at oldest
              exact ⟨batch, List.mem_cons_self, series, found, points.trans oldest⟩

/-- A point that is the first one held of its series remains so until a flush delivers it. -/
theorem head?_pointsHeld_of_failures {relay later : Relay} {envelope : Envelope} {key : SeriesId}
    {point : Point} {journal : Journal} (fresh : relay.pointsHeld key = [])
    (worth : envelope.point? key = some point)
    (reached : Reached { relay with collector := relay.collector.add envelope } journal later)
    (failed : journal.delivered = []) : (later.pointsHeld key).head? = some point := by
  have external := envelope.external_of_point? worth
  have held := reached.points_held external
  have started : pointsHeld { relay with collector := relay.collector.add envelope } key =
      [point] := by
    have added := relay.pointsHeld_took (.envelope envelope) external
    rw [fresh] at added
    simpa [Collector.take, worth] using added
  rw [failed, List.flatMap_nil, List.nil_append, started] at held
  rw [held]
  rfl

end Relay

namespace Line

/-- A timestamp reaches the line that it opens up to whole seconds, without overflow and in the
order of timestamps. The first point of a series in any batch, whatever was done to the collector,
is that of an envelope that was received, and the line ends in the time of that envelope. An
envelope whose point is the only one held of its series keeps the line through any number of
failed flushes: in some batch its point stays the first. -/
theorem timestamp_reaches_line (deployment address lead : String) (operations : List Operation) :
    (∀ timestamp : Int64,
      let time := nanoseconds (timestamp / 1000000000)
      time = (timestamp / 1000000000).toInt * 1000000000 ∧
        WholeSeconds timestamp.toInt time ∧
        ∀ later, timestamp ≤ later → time ≤ nanoseconds (later / 1000000000)) ∧
      (∀ batch ∈ ((Holdings.fresh deployment address).run operations).batches,
        ∀ key series, batch[key]? = some series → key.kind ≠ .internal →
          ∃ envelope ∈ operations.flatMap Operation.envelopes, ∃ point,
            envelope.point? key = some point ∧ series.points.head? = some point ∧
              ∀ now, EndsIn (render lead now key.name series)
                (nanoseconds (envelope.timestamp / 1000000000))) ∧
      ∀ (relay later : Relay) (envelope : Envelope) (key : SeriesId) (point : Point)
        (journal : Journal), relay.pointsHeld key = [] → envelope.point? key = some point →
        Relay.Reached { relay with collector := relay.collector.add envelope } journal later →
        journal.delivered = [] →
        ∃ batch ∈ later.batches, ∃ series, batch[key]? = some series ∧
          series.points.head? = some point ∧
          ∀ now, EndsIn (render lead now key.name series)
            (nanoseconds (envelope.timestamp / 1000000000)) := by
  refine ⟨?_, ?_, ?_⟩
  · intro timestamp time
    refine ⟨?_, ?_, fun later ordered => nanoseconds_seconds_mono ordered⟩
    · rw [toInt_seconds]
      exact nanoseconds_seconds timestamp
    · simp only [time, nanoseconds_seconds]
      exact wholeSeconds_tdiv timestamp.toInt
  · intro batch member key series found external
    have wellFormed := ((Holdings.WellFormed.fresh deployment address).run operations).batch member
    obtain ⟨first, rest, points⟩ :=
      List.exists_cons_of_ne_nil (wellFormed key series found).filled
    have inside : first ∈ batch.points key := by simp [Batch.points, found, points]
    have oldest : series.points.head? = some first := by rw [points, List.head?_cons]
    have origin := (Holdings.from_fresh deployment address).run operations batch member
    obtain ⟨envelope, belongs, worth⟩ := origin key external first inside
    exact ⟨envelope, belongs, first, worth, oldest, envelope.endsIn_render worth oldest lead⟩
  · intro relay later envelope key point journal fresh worth reached failed
    have held := Relay.head?_pointsHeld_of_failures fresh worth reached failed
    obtain ⟨batch, member, series, found, oldest⟩ := Relay.exists_series_of_pointsHeld held
    exact ⟨batch, member, series, found, oldest, envelope.endsIn_render worth oldest lead⟩

theorem timestamp_reaches_line_earliest :
    let reading (time : Int64) (value : Nat) : Envelope :=
      ⟨some "router", time, none, some "api", none, none, [],
        .valueMetric ⟨"load", .ofNat value, ""⟩⟩
    let key : SeriesId := .of .value "router.load" ⟨["job=api"]⟩
    let start : Relay := .fresh "cf" "10.0.0.1"
    let added : Relay := { start with collector := start.collector.add (reading Int64.minValue 5) }
    let occurrences : List Occurrence :=
      [.beginFlush 2, .envelope (reading 1 7), .endFlush (.missing "timeout"), .beginFlush 3]
    start.pointsHeld key = [] ∧
      (reading Int64.minValue 5).point? key = some ⟨-9223372036, .ofNat 5⟩ ∧
      (added.journal occurrences).delivered = [] ∧
      ∃ batch ∈ (added.run occurrences).batches, ∃ series, batch[key]? = some series ∧
        ∀ now, EndsIn (render "cf." now "router.load" series) (-9223372036000000000) := by
  intro reading key start added occurrences
  have fresh : start.pointsHeld key = [] := rfl
  have measured : (reading Int64.minValue 5).measurement? =
      some ⟨.value, "router.load", .ofNat 5⟩ := rfl
  have worth : (reading Int64.minValue 5).point? key = some ⟨-9223372036, .ofNat 5⟩ :=
    Envelope.point?_of_finite measured (by decide) rfl (by decide)
  have failed : (added.journal occurrences).delivered = [] := rfl
  obtain ⟨-, -, kept⟩ := timestamp_reaches_line "cf" "10.0.0.1" "cf." []
  obtain ⟨batch, member, series, found, -, ends⟩ := kept start _ _ key _ _ fresh worth
    (Relay.reached_run added occurrences) failed
  have time : nanoseconds ((reading Int64.minValue 5).timestamp / 1000000000) =
      -9223372036000000000 := by decide
  exact ⟨fresh, worth, failed, batch, member, series, found, fun now => time ▸ ends now⟩

end Line

end TelemetryRelay
