import TelemetryRelay.Proofs.Enumeration
import TelemetryRelay.Proofs.Separators

/-!
The order of free tags never matters. Two runs whose tags are enumerated differently keep the same
series with the same points and report the same; all that differs is the order of free tags on the
lines they post.
-/

namespace TelemetryRelay

/-- Tags that two runs keep for one series: of an internal series they are the same, of any other
they are the tags of one envelope. -/
def Tags.Alike (envelopes : List Envelope) (key : SeriesId) (left right : Tags) : Prop :=
  (key.kind = .internal ∧ left = right) ∨
    ∃ envelope ∈ envelopes, envelope.key? = some key ∧
      envelope.Tagged left ∧ envelope.Tagged right

structure Series.Alike (envelopes : List Envelope) (key : SeriesId) (left right : Series) :
    Prop where
  points : left.points = right.points
  tags : left.tags.Alike envelopes key right.tags

def Batch.Alike (envelopes : List Envelope) (left right : Batch) : Prop :=
  ∀ key : SeriesId, Option.Rel (Series.Alike envelopes key) left[key]? right[key]?

namespace Series

variable {envelopes : List Envelope} {key : SeriesId}

theorem Alike.internal (series : Series) (internal : key.kind = .internal) :
    series.Alike envelopes key series :=
  ⟨rfl, .inl ⟨internal, rfl⟩⟩

theorem Alike.extend {left right : Option Series} {point : Point} {first second : Tags}
    (tags : first.Alike envelopes key second)
    (alike : Option.Rel (Series.Alike envelopes key) left right) :
    (Series.extend ⟨key, first, point⟩ left).Alike envelopes key
      (.extend ⟨key, second, point⟩ right) := by
  cases alike with
  | none => exact ⟨rfl, tags⟩
  | some older => exact ⟨congrArg (· ++ [point]) older.points, tags⟩

theorem Alike.prepend {older other : Series} (olderAlike : older.Alike envelopes key other)
    {left right : Option Series} (alike : Option.Rel (Series.Alike envelopes key) left right) :
    (Series.prepend key.kind older left).Alike envelopes key
      (.prepend key.kind other right) := by
  cases alike with
  | none => exact olderAlike
  | some newer =>
      by_cases internal : key.kind = .internal
      · simpa only [Series.prepend, if_pos internal] using newer
      · simp only [Series.prepend, if_neg internal]
        exact ⟨congrArg₂ (· ++ ·) olderAlike.points newer.points, newer.tags⟩

end Series

namespace Batch

variable {envelopes : List Envelope} {left right : Batch}

theorem Alike.empty : Alike envelopes ∅ ∅ := by
  intro key
  simp only [Std.ExtTreeMap.getElem?_empty]
  exact .none

theorem Alike.insert (alike : left.Alike envelopes right) {internalKey : SeriesId}
    (internal : internalKey.kind = .internal) (series : Series) :
    Alike envelopes (left.insert internalKey series) (right.insert internalKey series) := by
  intro key
  simp only [Std.ExtTreeMap.getElem?_insert, Std.compare_eq_iff_eq]
  by_cases same : internalKey = key
  · simp only [if_pos same]
    exact .some (.internal series (same ▸ internal))
  · simp only [if_neg same]
    exact alike key

theorem Alike.record (alike : left.Alike envelopes right) {sampleKey : SeriesId} {point : Point}
    {first second : Tags} (tags : first.Alike envelopes sampleKey second) :
    Alike envelopes (left.record ⟨sampleKey, first, point⟩)
      (right.record ⟨sampleKey, second, point⟩) := by
  intro key
  simp only [getElem?_record]
  by_cases same : sampleKey = key
  · subst same
    simp only [if_true]
    exact .some (.extend tags (alike sampleKey))
  · simp only [if_neg same]
    exact alike key

theorem Alike.prepend {older other : Batch} (olderAlike : older.Alike envelopes other)
    (alike : left.Alike envelopes right) :
    Alike envelopes (older.prepend left) (other.prepend right) := by
  intro key
  have undelivered := olderAlike key
  rw [getElem?_prepend, getElem?_prepend]
  generalize older[key]? = found, other[key]? = otherFound at undelivered ⊢
  cases undelivered with
  | none => exact alike key
  | some held => exact .some (held.prepend (alike key))

theorem Alike.keys (alike : left.Alike envelopes right) : left.keys = right.keys := by
  have members : ∀ key : SeriesId, key ∈ left.keys ↔ key ∈ right.keys := by
    intro key
    have entry := alike key
    rw [Std.ExtTreeMap.mem_keys, Std.ExtTreeMap.mem_keys,
      Std.ExtTreeMap.mem_iff_isSome_getElem?, Std.ExtTreeMap.mem_iff_isSome_getElem?]
    generalize left[key]? = found, right[key]? = other at entry ⊢
    cases entry <;> simp
  have same : left.keys.Perm right.keys :=
    (List.perm_ext_iff_of_nodup Std.ExtTreeMap.nodup_keys Std.ExtTreeMap.nodup_keys).mpr members
  refine List.Perm.eq_of_pairwise ?_ Std.ExtTreeMap.ordered_keys Std.ExtTreeMap.ordered_keys same
  intro first second _ _ below above
  exact absurd above (Std.OrientedCmp.not_lt_of_lt below)

theorem Alike.size (alike : left.Alike envelopes right) : left.size = right.size := by
  rw [← Std.ExtTreeMap.length_keys, alike.keys, Std.ExtTreeMap.length_keys]

def EntryAlike (envelopes : List Envelope) (left right : SeriesId × Series) : Prop :=
  left.1 = right.1 ∧ left.2.Alike envelopes left.1 right.2

theorem Alike.entries (alike : left.Alike envelopes right) :
    List.Forall₂ (EntryAlike envelopes) left.toList right.toList := by
  have keys : List.Forall₂ (· = ·) (left.toList.map Prod.fst) (right.toList.map Prod.fst) := by
    rw [List.forall₂_eq_eq_eq, Std.ExtTreeMap.map_fst_toList_eq_keys,
      Std.ExtTreeMap.map_fst_toList_eq_keys]
    exact alike.keys
  rw [List.forall₂_map_left_iff, List.forall₂_map_right_iff, List.forall₂_iff_zip] at keys
  rw [List.forall₂_iff_zip]
  refine ⟨keys.1, ?_⟩
  rintro ⟨key, series⟩ ⟨other, others⟩ member
  have same : key = other := keys.2 member
  subst same
  have entry := alike key
  obtain ⟨found, otherFound⟩ := List.of_mem_zip member
  rw [Std.ExtTreeMap.mem_toList_iff_getElem?_eq_some.mp found,
    Std.ExtTreeMap.mem_toList_iff_getElem?_eq_some.mp otherFound, Option.rel_some_some] at entry
  exact ⟨rfl, entry⟩

end Batch

/-- Two lines of one series. Those of an internal series are the same; any other two begin with the
name and the tags of one envelope, of which the free ones may be in different orders. -/
def Line.Alike (envelopes : List Envelope) (lead : String) (key : SeriesId)
    (left right : String) : Prop :=
  (key.kind = .internal ∧ left = right) ∨
    ∃ envelope ∈ envelopes, envelope.key? = some key ∧ ∃ first second rest,
      first.Perm envelope.freeLabels ∧ second.Perm envelope.freeLabels ∧
      left =
        String.intercalate "," ((lead ++ key.name) :: (envelope.fixedLabels ++ first)) ++ rest ∧
      right =
        String.intercalate "," ((lead ++ key.name) :: (envelope.fixedLabels ++ second)) ++ rest

theorem Line.render_eq (lead : String) (now : Int64) (name : String) (series : Series) :
    render lead now name series =
      String.intercalate "," ((lead ++ name) :: series.tags.written) ++
        (" " ++ fields series.points ++ " " ++
          toString (nanoseconds (time series.points now)) ++ "\n") := by
  simp only [render, head_eq, String.append_assoc]

theorem Series.Alike.line {envelopes : List Envelope} {key : SeriesId} {left right : Series}
    (alike : left.Alike envelopes key right) (lead : String) (now : Int64) :
    Line.Alike envelopes lead key (Line.render lead now key.name left)
      (Line.render lead now key.name right) := by
  rw [Line.render_eq, Line.render_eq, alike.points]
  rcases alike.tags with ⟨internal, same⟩ | ⟨envelope, member, keyed, leftTagged, rightTagged⟩
  · exact .inl ⟨internal, by rw [same]⟩
  · obtain ⟨first, firstPerm, leftWritten⟩ := leftTagged
    obtain ⟨second, secondPerm, rightWritten⟩ := rightTagged
    rw [leftWritten, rightWritten]
    exact .inr ⟨envelope, member, keyed, first, second, _, firstPerm, secondPerm, rfl, rfl⟩

def Payload.Alike (envelopes : List Envelope) (lead : String) (keys : List SeriesId)
    (left right : Payload) : Prop :=
  ∃ lines : List (String × String),
    List.Forall₂ (fun key line => Line.Alike envelopes lead key line.1 line.2) keys lines ∧
      left = ⟨String.join (lines.map Prod.fst), keys.length⟩ ∧
      right = ⟨String.join (lines.map Prod.snd), keys.length⟩

def Report.Alike (envelopes : List Envelope) (lead : String) : Report → Report → Prop
  | .posted keys left, .posted others right =>
    keys = others ∧ left.Alike envelopes lead keys right
  | left, right => left = right

theorem Line.alike_of_entries {envelopes : List Envelope}
    {lefts rights : List (SeriesId × Series)}
    (entries : List.Forall₂ (Batch.EntryAlike envelopes) lefts rights) (lead : String)
    (now : Int64) :
    ∃ lines : List (String × String),
      List.Forall₂ (fun key line => Line.Alike envelopes lead key line.1 line.2)
          (lefts.map Prod.fst) lines ∧
        (lefts.map fun entry => render lead now entry.1.name entry.2) = lines.map Prod.fst ∧
        (rights.map fun entry => render lead now entry.1.name entry.2) = lines.map Prod.snd := by
  induction entries with
  | nil => exact ⟨[], .nil, rfl, rfl⟩
  | @cons left right _ _ entry _ ih =>
      obtain ⟨lines, alikes, leftLines, rightLines⟩ := ih
      obtain ⟨same, series⟩ := entry
      refine ⟨(render lead now left.1.name left.2, render lead now left.1.name right.2) :: lines,
        .cons (series.line lead now) alikes, ?_, ?_⟩
      · rw [List.map_cons, List.map_cons, leftLines]
      · rw [List.map_cons, List.map_cons, rightLines, same]

theorem Batch.Alike.payload {envelopes : List Envelope} {left right : Batch}
    (alike : left.Alike envelopes right) (lead : String) (now : Int64) :
    Payload.Alike envelopes lead left.keys (left.payload lead now) (right.payload lead now) := by
  obtain ⟨lines, alikes, leftLines, rightLines⟩ := Line.alike_of_entries alike.entries lead now
  rw [Std.ExtTreeMap.map_fst_toList_eq_keys] at alikes
  refine ⟨lines, alikes, ?_, ?_⟩
  · rw [← leftLines, Std.ExtTreeMap.length_keys]
    rfl
  · rw [← rightLines, Std.ExtTreeMap.length_keys, alike.size]
    rfl

structure Collector.Alike (envelopes : List Envelope) (left right : Collector) : Prop where
  batch : left.batch.Alike envelopes right.batch
  internalTags : left.internalTags = right.internalTags
  received : left.received = right.received
  sent : left.sent = right.sent

namespace Collector

variable {envelopes : List Envelope} {left right : Collector}

theorem Alike.setInternal (alike : left.Alike envelopes right) (metric : InternalMetric)
    (value : UInt64) (now : Int64) :
    (left.setInternal metric value now).Alike envelopes (right.setInternal metric value now) := by
  refine ⟨?_, alike.internalTags, alike.received, alike.sent⟩
  simp only [Collector.setInternal, internalKey, ← alike.internalTags]
  exact alike.batch.insert rfl _

theorem Alike.add (alike : left.Alike envelopes right) {envelope : Envelope}
    (member : envelope ∈ envelopes) (first second : Enumeration) (place : Nat) :
    (left.add (first.arranged place envelope)).Alike envelopes
      (right.add (second.arranged place envelope)) := by
  refine ⟨?_, alike.internalTags, congrArg (· + 1) alike.received, alike.sent⟩
  rw [batch_add, batch_add, envelope.sample?_arranged, envelope.sample?_arranged]
  cases sampled : envelope.sample? with
  | none => exact alike.batch
  | some sample =>
      exact alike.batch.record (.inr ⟨envelope, member, envelope.key?_of_sample sampled,
        envelope.tagged_arranged first place, envelope.tagged_arranged second place⟩)

theorem Alike.accept (alike : left.Alike envelopes right) {envelope : Envelope}
    (member : envelope ∈ envelopes) (first second : Enumeration) (place : Nat) (now : Int64) :
    (left.accept now (first.arranged place envelope)).Alike envelopes
      (right.accept now (second.arranged place envelope)) := by
  -- A report of dropped messages is told by its event and its origin.
  have signal (enumeration : Enumeration) :
      (enumeration.arranged place envelope).reportsSlowConsumer = envelope.reportsSlowConsumer :=
    rfl
  simp only [Collector.accept, signal]
  by_cases reports : envelope.reportsSlowConsumer = true
  · simp only [if_pos reports]
    exact (alike.setInternal .slowConsumerAlert 1 now).add member first second place
  · simp only [if_neg reports]
    exact alike.add member first second place

theorem Alike.arrive (alike : left.Alike envelopes right) (arrival : Arrival)
    (members : ∀ envelope ∈ arrival.envelopes, envelope ∈ envelopes)
    (first second : Enumeration) :
    (left.arriveIn first arrival).Alike envelopes (right.arriveIn second arrival) := by
  cases arrival with
  | envelope envelope => exact alike.add (members envelope List.mem_cons_self) first second 0
  | alert now => exact alike.setInternal .slowConsumerAlert 1 now
  | datagram clock bytes =>
      simp only [Arrival.envelopes, arriveIn] at members ⊢
      cases decoded : Datagram.lines bytes with
      | error fault => exact alike
      | ok lines =>
          simp only [decoded] at members ⊢
          have placed : ∀ entry ∈ (Datagram.envelopes lines).zipIdx, entry.1 ∈ envelopes :=
            fun entry member => members entry.1 (List.fst_mem_of_mem_zipIdx member)
          generalize (Datagram.envelopes lines).zipIdx = entries at placed ⊢
          induction entries generalizing left right with
          | nil => exact alike
          | cons entry rest ih =>
              obtain ⟨here, others⟩ := List.forall_mem_cons.mp placed
              exact ih (alike.accept here first second entry.2 (clock entry.2)) others

theorem Alike.refresh (alike : left.Alike envelopes right) (now : Int64) :
    (left.refresh now).Alike envelopes (right.refresh now) := by
  have counted := (alike.setInternal .messagesReceived right.received now).setInternal
    .metricsSent right.sent now
  have key : left.internalKey InternalMetric.slowConsumerAlert.name =
      right.internalKey InternalMetric.slowConsumerAlert.name := by
    rw [internalKey, alike.internalTags, internalKey]
  have queued := alike.batch (right.internalKey InternalMetric.slowConsumerAlert.name)
  simp only [refresh_eq, alike.received, alike.sent, key]
  generalize left.batch[right.internalKey InternalMetric.slowConsumerAlert.name]? = found,
    right.batch[right.internalKey InternalMetric.slowConsumerAlert.name]? = other at queued ⊢
  cases queued with
  | none => exact counted.setInternal .slowConsumerAlert 0 now
  | some series => exact counted

theorem Alike.detach (alike : left.Alike envelopes right) :
    left.detach.1.Alike envelopes right.detach.1 ∧ left.detach.2.Alike envelopes right.detach.2 :=
  ⟨alike.batch, .empty, alike.internalTags, alike.received, alike.sent⟩

theorem Alike.reattach (alike : left.Alike envelopes right) {older other : Batch}
    (undelivered : older.Alike envelopes other) :
    (left.reattach older).Alike envelopes (right.reattach other) :=
  ⟨undelivered.prepend alike.batch, alike.internalTags, alike.received, alike.sent⟩

theorem Alike.countSent (alike : left.Alike envelopes right) (count : UInt64) :
    (left.countSent count).Alike envelopes (right.countSent count) :=
  ⟨alike.batch, alike.internalTags, alike.received, congrArg (· + count) alike.sent⟩

end Collector

theorem Batch.Alike.result {envelopes : List Envelope} {left right : Batch}
    (alike : left.Alike envelopes right) (now : Int64) (answer : Answer) :
    Flush.result ⟨now, left⟩ answer = Flush.result ⟨now, right⟩ answer := by
  simp only [Flush.result, alike.size]

theorem Collector.Alike.endFlush {envelopes : List Envelope} {left right : Collector}
    (alike : left.Alike envelopes right) {older other : Batch}
    (undelivered : older.Alike envelopes other) (now : Int64) (answer : Answer) :
    (left.endFlush ⟨now, older⟩ answer).Alike envelopes
      (right.endFlush ⟨now, other⟩ answer) := by
  simp only [Collector.endFlush, undelivered.result]
  cases Flush.result ⟨now, other⟩ answer with
  | ok count => exact alike.countSent (.ofNat count)
  | error failure => exact alike.reattach undelivered

structure Holdings.Alike (envelopes : List Envelope) (left right : Holdings) : Prop where
  collector : left.collector.Alike envelopes right.collector
  detached : List.Forall₂ (Batch.Alike envelopes) left.detached right.detached

namespace Holdings

variable {envelopes : List Envelope} {left right : Holdings}

theorem Alike.fresh (deployment address : String) :
    Alike envelopes (.fresh deployment address) (.fresh deployment address) :=
  ⟨⟨.empty, rfl, rfl, rfl⟩, .nil⟩

theorem Alike.called (alike : left.Alike envelopes right) (place : Nat) :
    Option.Rel (Batch.Alike envelopes) left.detached[place]? right.detached[place]? := by
  have detached := alike.detached
  generalize left.detached = batches, right.detached = others at detached ⊢
  induction detached generalizing place with
  | nil => exact .none
  | cons batch _ ih =>
      cases place with
      | zero => exact .some batch
      | succ place => exact ih place

theorem Alike.step (alike : left.Alike envelopes right) (operation : Operation)
    (members : ∀ envelope ∈ operation.envelopes, envelope ∈ envelopes)
    (first second : Enumeration) :
    (left.stepIn first operation).Alike envelopes (right.stepIn second operation) := by
  have pending := alike.collector
  cases operation with
  | arrival arrival => exact ⟨pending.arrive arrival members first second, alike.detached⟩
  | refresh now => exact ⟨pending.refresh now, alike.detached⟩
  | countSent count => exact ⟨pending.countSent count, alike.detached⟩
  | detach =>
      obtain ⟨batch, rest⟩ := pending.detach
      exact ⟨rest, List.rel_append alike.detached (.cons batch .nil)⟩
  | beginFlush now =>
      obtain ⟨batch, rest⟩ := (pending.refresh now).detach
      exact ⟨rest, List.rel_append alike.detached (.cons batch .nil)⟩
  | reattach place =>
      have called := alike.called place
      simp only [stepIn, Holdings.step]
      generalize left.detached[place]? = found, right.detached[place]? = other at called ⊢
      cases called with
      | none => exact alike
      | some undelivered => exact ⟨pending.reattach undelivered, alike.detached⟩
  | endFlush now place answer =>
      have called := alike.called place
      simp only [stepIn, Holdings.step]
      generalize left.detached[place]? = found, right.detached[place]? = other at called ⊢
      cases called with
      | none => exact alike
      | some undelivered => exact ⟨pending.endFlush undelivered now answer, alike.detached⟩

theorem Alike.report (alike : left.Alike envelopes right) (operation : Operation)
    (first second : Enumeration) (lead : String) :
    Report.Alike envelopes lead (left.report first lead operation)
      (right.report second lead operation) := by
  cases operation with
  | arrival arrival =>
      exact congrArg Report.noticed
        ((arrival.noticesIn_eq first).trans (arrival.noticesIn_eq second).symm)
  | beginFlush now =>
      obtain ⟨batch, -⟩ := (alike.collector.refresh now).detach
      exact ⟨batch.keys, batch.payload lead now⟩
  | endFlush now place answer =>
      have called := alike.called place
      simp only [Holdings.report]
      generalize left.detached[place]? = found, right.detached[place]? = other at called ⊢
      cases called with
      | none => rfl
      | some undelivered => exact congrArg Report.ended (undelivered.result now answer)
  | refresh now => rfl
  | detach => rfl
  | reattach place => rfl
  | countSent count => rfl

theorem Alike.run (alike : left.Alike envelopes right) (operations : List Operation)
    (members : ∀ envelope ∈ operations.flatMap Operation.envelopes, envelope ∈ envelopes)
    (first second : Nat → Enumeration) (lead : String) :
    (left.runIn lead first operations).1.Alike envelopes
        (right.runIn lead second operations).1 ∧
      List.Forall₂ (Report.Alike envelopes lead) (left.runIn lead first operations).2
        (right.runIn lead second operations).2 := by
  induction operations generalizing left right first second with
  | nil => exact ⟨alike, .nil⟩
  | cons operation rest ih =>
      rw [List.flatMap_cons, List.forall_mem_append] at members
      obtain ⟨here, later⟩ := members
      obtain ⟨final, reports⟩ := ih (alike.step operation here (first 0) (second 0)) later
        (fun step => first (step + 1)) (fun step => second (step + 1))
      exact ⟨final, .cons (alike.report operation (first 0) (second 0) lead) reports⟩

/-- Runs of the same operations, and so their parts as well, have the same counters and the same
keys and points, pending and detached. They report the same notices and results, and they post the
same series in the same order, on lines that differ in the order of free tags at most. With the tags
as they are given the run is that of the collector itself. -/
theorem tag_order_never_matters (deployment address lead : String)
    (first second : Nat → Enumeration) (operations : List Operation) :
    let envelopes := operations.flatMap Operation.envelopes
    let start := Holdings.fresh deployment address
    let left := start.runIn lead first operations
    let right := start.runIn lead second operations
    left.1.Alike envelopes right.1 ∧
      List.Forall₂ (Report.Alike envelopes lead) left.2 right.2 ∧
      (start.runIn lead (fun _ => .given) operations).1 = start.run operations := by
  intro envelopes start left right
  obtain ⟨final, reports⟩ := (Alike.fresh deployment address).run operations
    (fun _ member => member) first second lead
  exact ⟨final, reports, start.runIn_given lead operations⟩

example :
    let reversed : Enumeration := ⟨fun _ tags => tags.reverse, fun _ tags => tags.reverse_perm⟩
    let reading : Envelope := ⟨some "o", 1000000000, none, some "api", none, none,
      [⟨"a", "1"⟩, ⟨"b", "2"⟩], .valueMetric ⟨"m", .ofNat 5, ""⟩⟩
    let posted (enumeration : Enumeration) : String :=
      (((Collector.fresh "cf" "10.0.0.1").arriveIn enumeration (.envelope reading)).batch.payload
        "" 0).text
    posted .given = "o.m,job=api,a=1,b=2 value=5 1000000000\n" ∧
      posted reversed = "o.m,job=api,b=2,a=1 value=5 1000000000\n" := by
  decide +kernel

end Holdings

end TelemetryRelay
