import Mathlib.Data.List.Forall2
import TelemetryRelay.Proofs.InternalSeries
import TelemetryRelay.Proofs.Numeral
import TelemetryRelay.Proofs.Rounding

/-!
What holds of every entry of every batch, pending or detached, whatever a collector went through:
its key fits its series, and its series has points, all of them finite. So every line of a payload
has a value and a time of its own.
-/

namespace TelemetryRelay

/-- What holds of a series and its key. `tags` are those of the internal series. -/
structure Series.WellFormed (tags : Tags) (key : SeriesId) (series : Series) : Prop where
  digest : key.digest = series.tags.digest
  filled : series.points ≠ []
  finite : ∀ point ∈ series.points, point.value.isFinite = true
  internal : key.kind = .internal →
    (∃ metric : InternalMetric, key.name = metric.name) ∧ series.tags = tags ∧
      series.points.length = 1
  external : key.kind ≠ .internal → '.' ∈ key.name.toList

def Batch.WellFormed (tags : Tags) (batch : Batch) : Prop :=
  ∀ (key : SeriesId) (series : Series), batch[key]? = some series → series.WellFormed tags key

namespace Series

variable {tags : Tags} {key : SeriesId}

theorem WellFormed.current (tags : Tags) (metric : InternalMetric) (value : UInt64)
    (now : Int64) :
    WellFormed tags (.of .internal metric.name tags) ⟨tags, [⟨now, .ofNat value.toNat⟩]⟩ where
  digest := rfl
  filled := by simp
  finite := by simpa using Binary64.isFinite_ofUInt64 value
  internal := fun _ => ⟨⟨metric, rfl⟩, rfl, rfl⟩
  external := fun differs => absurd rfl differs

theorem WellFormed.extend {envelope : Envelope} {sample : Sample}
    (sampled : envelope.sample? = some sample) (series : Option Series)
    (before : ∀ older, series = some older → older.WellFormed tags sample.key) :
    (Series.extend sample series).WellFormed tags sample.key := by
  have external := envelope.sample?_external sampled
  have dotted : '.' ∈ sample.key.name.toList := by
    rcases envelope.sample?_named tags sampled with ⟨metric, same⟩ | ⟨-, dotted⟩
    · exact absurd (by rw [same]; rfl) external
    · exact dotted
  obtain ⟨measurement, -, finite, rfl⟩ := envelope.sample?_eq_some sampled
  -- Key and tags are those of the envelope, so they fit whatever tags the series had before.
  constructor
  · cases series <;> rfl
  · cases series <;> simp [Series.extend]
  · cases series with
    | none => simpa [Series.extend] using finite
    | some older =>
        intro point member
        rcases List.mem_append.mp member with old | new
        · exact (before older rfl).finite point old
        · rw [List.mem_singleton.mp new]
          exact finite
  · exact fun same => absurd same external
  · exact fun _ => dotted

theorem WellFormed.prepend {older : Series} (wellFormed : older.WellFormed tags key)
    (pending : Option Series) (after : ∀ newer, pending = some newer → newer.WellFormed tags key) :
    (Series.prepend key.kind older pending).WellFormed tags key := by
  cases pending with
  | none => exact wellFormed
  | some newer =>
      have recent := after newer rfl
      by_cases internal : key.kind = .internal
      · simpa only [Series.prepend, if_pos internal] using recent
      · simp only [Series.prepend, if_neg internal]
        -- The tags are the newer ones, and they fit the key that both series are held under.
        constructor
        · exact recent.digest
        · simp [recent.filled]
        · intro point member
          exact (List.mem_append.mp member).elim (wellFormed.finite point) (recent.finite point)
        · exact fun same => absurd same internal
        · exact recent.external

end Series

namespace Batch

variable {tags : Tags} {batch : Batch}

theorem WellFormed.empty (tags : Tags) : WellFormed tags ∅ := by
  intro key series found
  simp at found

theorem WellFormed.insert (wellFormed : batch.WellFormed tags) (metric : InternalMetric)
    (value : UInt64) (now : Int64) :
    WellFormed tags
      (batch.insert (.of .internal metric.name tags) ⟨tags, [⟨now, .ofNat value.toNat⟩]⟩) := by
  intro key series found
  simp only [Std.ExtTreeMap.getElem?_insert, Std.compare_eq_iff_eq] at found
  split at found
  · rename_i same
    subst same
    cases found
    exact .current tags metric value now
  · exact wellFormed key series found

theorem WellFormed.record (wellFormed : batch.WellFormed tags) {envelope : Envelope}
    {sample : Sample} (sampled : envelope.sample? = some sample) :
    WellFormed tags (batch.record sample) := by
  intro key series found
  rw [getElem?_record] at found
  split at found
  · rename_i same
    subst same
    cases found
    exact .extend sampled _ (wellFormed sample.key)
  · exact wellFormed key series found

theorem WellFormed.prepend {older : Batch} (undelivered : older.WellFormed tags)
    (pending : batch.WellFormed tags) : WellFormed tags (older.prepend batch) := by
  intro key series found
  rw [getElem?_prepend] at found
  cases held : older[key]? with
  | none =>
      rw [held] at found
      exact pending key series found
  | some oldest =>
      rw [held] at found
      cases found
      exact (undelivered key oldest held).prepend _ (pending key)

end Batch

/-- A collector together with every batch that was ever detached from it. -/
structure Holdings where
  collector : Collector
  detached : List Batch

/-- What can be done with a collector. A detached batch is called by its place among the detached
batches; nothing keeps it from being put back more than once. -/
inductive Operation
  | arrival (arrival : Arrival)
  | refresh (now : Int64)
  | detach
  | reattach (place : Nat)
  | countSent (count : UInt64)
  | beginFlush (now : Int64)
  | endFlush (now : Int64) (place : Nat) (answer : Answer)

namespace Holdings

def fresh (deployment address : String) : Holdings :=
  ⟨.fresh deployment address, []⟩

def step (holdings : Holdings) : Operation → Holdings
  | .arrival arrival => { holdings with collector := holdings.collector.arrive arrival }
  | .refresh now => { holdings with collector := holdings.collector.refresh now }
  | .detach => ⟨holdings.collector.detach.2, holdings.detached ++ [holdings.collector.detach.1]⟩
  | .reattach place =>
    match holdings.detached[place]? with
    | none => holdings
    | some batch => { holdings with collector := holdings.collector.reattach batch }
  | .countSent count => { holdings with collector := holdings.collector.countSent count }
  | .beginFlush now =>
    ⟨(holdings.collector.beginFlush now).2,
      holdings.detached ++ [(holdings.collector.beginFlush now).1.batch]⟩
  | .endFlush now place answer =>
    match holdings.detached[place]? with
    | none => holdings
    | some batch => { holdings with collector := holdings.collector.endFlush ⟨now, batch⟩ answer }

def run (holdings : Holdings) (operations : List Operation) : Holdings :=
  operations.foldl step holdings

def batches (holdings : Holdings) : List Batch :=
  holdings.collector.batch :: holdings.detached

end Holdings

namespace Collector

structure WellFormed (tags : Tags) (collector : Collector) : Prop where
  internalTags : collector.internalTags = tags
  batch : collector.batch.WellFormed tags

variable {tags : Tags} {collector : Collector}

theorem WellFormed.setInternal (wellFormed : collector.WellFormed tags) (metric : InternalMetric)
    (value : UInt64) (now : Int64) : (collector.setInternal metric value now).WellFormed tags := by
  obtain ⟨rfl, batch⟩ := wellFormed
  exact ⟨rfl, batch.insert metric value now⟩

theorem WellFormed.take (wellFormed : collector.WellFormed tags) (intake : Intake) :
    (collector.take intake).WellFormed tags := by
  cases intake with
  | envelope envelope =>
      refine ⟨wellFormed.internalTags, ?_⟩
      rw [Collector.take, batch_add]
      cases sampled : envelope.sample? with
      | none => exact wellFormed.batch
      | some sample => exact wellFormed.batch.record sampled
  | alert time => exact wellFormed.setInternal .slowConsumerAlert 1 time

theorem WellFormed.arrive (wellFormed : collector.WellFormed tags) (arrival : Arrival) :
    (collector.arrive arrival).WellFormed tags := by
  rw [arrive_eq_foldl]
  induction arrival.intakes generalizing collector with
  | nil => exact wellFormed
  | cons intake rest ih => exact ih (wellFormed.take intake)

theorem WellFormed.refresh (wellFormed : collector.WellFormed tags) (now : Int64) :
    (collector.refresh now).WellFormed tags := by
  have counted := (wellFormed.setInternal .messagesReceived collector.received now).setInternal
    .metricsSent collector.sent now
  rw [refresh_eq]
  cases collector.batch[collector.internalKey InternalMetric.slowConsumerAlert.name]? with
  | some series => exact counted
  | none => exact counted.setInternal .slowConsumerAlert 0 now

theorem WellFormed.detach (wellFormed : collector.WellFormed tags) :
    collector.detach.1.WellFormed tags ∧ collector.detach.2.WellFormed tags :=
  ⟨wellFormed.batch, wellFormed.internalTags, .empty tags⟩

theorem WellFormed.reattach (wellFormed : collector.WellFormed tags) {undelivered : Batch}
    (older : undelivered.WellFormed tags) : (collector.reattach undelivered).WellFormed tags :=
  ⟨wellFormed.internalTags, older.prepend wellFormed.batch⟩

theorem WellFormed.endFlush (wellFormed : collector.WellFormed tags) {flush : Flush}
    (older : flush.batch.WellFormed tags) (answer : Answer) :
    (collector.endFlush flush answer).WellFormed tags := by
  cases result : flush.result answer with
  | ok count =>
      rw [collector.endFlush_of_ok result]
      exact ⟨wellFormed.internalTags, wellFormed.batch⟩
  | error failure =>
      rw [collector.endFlush_of_error result]
      exact wellFormed.reattach older

end Collector

namespace Holdings

structure WellFormed (tags : Tags) (holdings : Holdings) : Prop where
  collector : holdings.collector.WellFormed tags
  detached : ∀ batch ∈ holdings.detached, batch.WellFormed tags

variable {tags : Tags} {holdings : Holdings}

theorem WellFormed.fresh (deployment address : String) :
    WellFormed (Collector.fresh deployment address).internalTags (.fresh deployment address) :=
  ⟨⟨rfl, .empty _⟩, by simp [Holdings.fresh]⟩

theorem WellFormed.parted (wellFormed : holdings.WellFormed tags) {batch : Batch}
    {rest : Collector} (parts : batch.WellFormed tags ∧ rest.WellFormed tags) :
    WellFormed tags ⟨rest, holdings.detached ++ [batch]⟩ := by
  refine ⟨parts.2, ?_⟩
  intro other member
  rcases List.mem_append.mp member with earlier | latest
  · exact wellFormed.detached other earlier
  · exact List.mem_singleton.mp latest ▸ parts.1

theorem WellFormed.step (wellFormed : holdings.WellFormed tags) (operation : Operation) :
    (holdings.step operation).WellFormed tags := by
  have pending := wellFormed.collector
  cases operation with
  | arrival arrival => exact ⟨pending.arrive arrival, wellFormed.detached⟩
  | refresh now => exact ⟨pending.refresh now, wellFormed.detached⟩
  | detach => exact wellFormed.parted pending.detach
  | countSent count => exact ⟨⟨pending.internalTags, pending.batch⟩, wellFormed.detached⟩
  | beginFlush now => exact wellFormed.parted (pending.refresh now).detach
  | reattach place =>
      cases found : holdings.detached[place]? with
      | none => simpa only [Holdings.step, found] using wellFormed
      | some batch =>
          have older := wellFormed.detached batch (List.mem_of_getElem? found)
          simp only [Holdings.step, found]
          exact ⟨pending.reattach older, wellFormed.detached⟩
  | endFlush now place answer =>
      cases found : holdings.detached[place]? with
      | none => simpa only [Holdings.step, found] using wellFormed
      | some batch =>
          have older := wellFormed.detached batch (List.mem_of_getElem? found)
          simp only [Holdings.step, found]
          exact ⟨pending.endFlush older answer, wellFormed.detached⟩

theorem WellFormed.run (wellFormed : holdings.WellFormed tags) (operations : List Operation) :
    (holdings.run operations).WellFormed tags := by
  induction operations generalizing holdings with
  | nil => exact wellFormed
  | cons operation rest ih => exact ih (wellFormed.step operation)

theorem WellFormed.batch (wellFormed : holdings.WellFormed tags) {batch : Batch}
    (member : batch ∈ holdings.batches) : batch.WellFormed tags :=
  List.forall_mem_cons.mpr ⟨wellFormed.collector.batch, wellFormed.detached⟩ batch member

end Holdings

/-- A line of the documented form, `name[,tag...] value=v[,value=v...] time`: it has at least one
value, each of them a numeral, and its time is that of its first point. -/
def Line.Proper (lead : String) (key : SeriesId) (series : Series) (line : String) : Prop :=
  ∃ first rest, series.points = first :: rest ∧
    line = head lead key.name series.tags ++ " " ++
        String.intercalate "," (series.points.map fun point =>
          "value=" ++ Decimal.Layout.value.render point.value) ++
        " " ++ toString (nanoseconds first.seconds) ++ "\n" ∧
    ∀ point ∈ series.points,
      (Decimal.Layout.value.render point.value).toList ≠ [] ∧
        ∀ char ∈ (Decimal.Layout.value.render point.value).toList, isNumeral char = true

theorem Series.WellFormed.proper {tags : Tags} {key : SeriesId} {series : Series}
    (wellFormed : series.WellFormed tags key) (lead : String) (now : Int64) :
    Line.Proper lead key series (Line.render lead now key.name series) := by
  obtain ⟨first, rest, points⟩ := List.exists_cons_of_ne_nil wellFormed.filled
  refine ⟨first, rest, points, ?_, ?_⟩
  · simp only [Line.render, Line.fields, Line.time, points]
    rfl
  · intro point member
    exact Decimal.render_value_of_finite (wellFormed.finite point member)

theorem Series.WellFormed.render_eq {tags : Tags} {key : SeriesId} {series : Series}
    (wellFormed : series.WellFormed tags key) (lead : String) (now other : Int64) :
    Line.render lead now key.name series = Line.render lead other key.name series := by
  obtain ⟨first, rest, points⟩ := List.exists_cons_of_ne_nil wellFormed.filled
  simp only [Line.render, Line.time, points]

theorem Batch.WellFormed.payload {tags : Tags} {batch : Batch} (wellFormed : batch.WellFormed tags)
    (lead : String) :
    ∃ lines : List String,
      (∀ now, batch.payload lead now = ⟨String.join lines, lines.length⟩) ∧
        List.Forall₂ (fun entry line => Line.Proper lead entry.1 entry.2 line) batch.toList
          lines := by
  have held : ∀ entry ∈ batch.toList, entry.2.WellFormed tags entry.1 := fun entry member =>
    wellFormed entry.1 entry.2 (Std.ExtTreeMap.mem_toList_iff_getElem?_eq_some.mp member)
  refine ⟨batch.toList.map fun entry => Line.render lead 0 entry.1.name entry.2, ?_, ?_⟩
  · intro now
    have text : batch.toList.map (fun entry => Line.render lead now entry.1.name entry.2) =
        batch.toList.map fun entry => Line.render lead 0 entry.1.name entry.2 :=
      List.map_congr_left fun entry member => (held entry member).render_eq lead now 0
    have count := batch.count_payload lead now
    rw [List.length_map, ← count, ← text]
    rfl
  · rw [List.forall₂_map_right_iff, List.forall₂_same]
    exact fun entry member => (held entry member).proper lead 0

namespace Holdings

/-- Whatever was done with a collector, every entry of every batch at hand is well-formed: its key
has the digest of its tags, it has points and all of them are finite, an internal series is one of
the three with the internal tags and a single point, and any other name has a dot in it. So each
entry has a line with values that are numerals, and no payload depends on the time it is made. -/
theorem batches_well_formed (deployment address : String) (operations : List Operation) :
    let holdings := (Holdings.fresh deployment address).run operations
    ∀ batch ∈ holdings.batches,
      batch.WellFormed (Collector.fresh deployment address).internalTags ∧
        ∀ lead, ∃ lines : List String,
          (∀ now, batch.payload lead now = ⟨String.join lines, lines.length⟩) ∧
            List.Forall₂ (fun entry line => Line.Proper lead entry.1 entry.2 line) batch.toList
              lines := by
  intro holdings batch member
  have reached : holdings.WellFormed (Collector.fresh deployment address).internalTags :=
    (WellFormed.fresh deployment address).run operations
  have wellFormed : batch.WellFormed (Collector.fresh deployment address).internalTags := by
    rcases List.mem_cons.mp member with rfl | detached
    · exact reached.collector.batch
    · exact reached.detached batch detached
  exact ⟨wellFormed, wellFormed.payload⟩

theorem batches_well_formed_reattached :
    let reading (time : Int64) (value : Nat) : Envelope :=
      ⟨some "router", time, none, some "api", none, none, [],
        .valueMetric ⟨"load", .ofNat value, ""⟩⟩
    let operations : List Operation :=
      [.arrival (.envelope (reading 1000000000 5)), .detach, .arrival (.alert 2),
        .arrival (.envelope (reading 3000000000 7)), .reattach 0]
    let holdings := (Holdings.fresh "cf" "10.0.0.1").run operations
    let key : SeriesId := .of .value "router.load" ⟨["job=api"]⟩
    let series : Series := ⟨⟨["job=api"]⟩, [⟨1, .ofNat 5⟩, ⟨3, .ofNat 7⟩]⟩
    holdings.collector.batch ∈ holdings.batches ∧
      holdings.collector.batch[key]? = some series ∧
      series.WellFormed (Collector.fresh "cf" "10.0.0.1").internalTags key ∧
      ∀ now,
        holdings.collector.batch.payload "cf." now =
          holdings.collector.batch.payload "cf." 0 := by
  intro reading operations holdings key series
  have measured (time : Int64) (value : Nat) :
      (reading time value).measurement? = some ⟨.value, "router.load", .ofNat value⟩ := rfl
  have sampled (time : Int64) (value : Nat) (finite : (Binary64.ofNat value).isFinite = true) :
      (reading time value).sample? =
        some ⟨key, ⟨["job=api"]⟩, ⟨time / 1000000000, .ofNat value⟩⟩ := by
    simp only [Envelope.sample?, measured, finite, if_true]
    rfl
  have external (collector : Collector) (name : String) : collector.internalKey name ≠ key :=
    fun same => SeriesKind.noConfusion (congrArg SeriesId.kind same)
  have member : holdings.collector.batch ∈ holdings.batches := List.mem_cons_self
  have found : holdings.collector.batch[key]? = some series := by
    simp only [holdings, operations, Holdings.run, List.foldl_cons, List.foldl_nil, Holdings.step,
      Collector.arrive, Collector.reattach, Collector.detach, Holdings.fresh, List.nil_append,
      List.getElem?_cons_zero, Batch.getElem?_prepend, Collector.batch_add,
      sampled 1000000000 5 (by decide), sampled 3000000000 7 (by decide), Batch.getElem?_record,
      Collector.raiseAlert, Collector.getElem?_setInternal, external, if_true, if_false]
    rfl
  obtain ⟨wellFormed, lines⟩ :=
    batches_well_formed "cf" "10.0.0.1" operations holdings.collector.batch member
  obtain ⟨_, payload, _⟩ := lines "cf."
  exact ⟨member, found, wellFormed key series found,
    fun now => (payload now).trans (payload 0).symm⟩

end Holdings

end TelemetryRelay
