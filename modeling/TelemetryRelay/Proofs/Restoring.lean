import TelemetryRelay.Proofs.Intake

/-!
Batches that are put back. To put one batch in front of another is associative and has the empty
batch as its unit, it takes the entries in any order, and it joins what two parts of a stream leave.
-/

namespace TelemetryRelay.Collector

theorem batch_foldl_add_append (deployment address : String) (before after : List Envelope) :
    ((before ++ after).foldl add (fresh deployment address)).batch =
      (before.foldl add (fresh deployment address)).batch.prepend
        (after.foldl add (fresh deployment address)).batch := by
  have external : ∀ sample ∈ after.filterMap Envelope.sample?, sample.key.kind ≠ .internal := by
    intro sample member
    obtain ⟨envelope, -, sampled⟩ := List.mem_filterMap.mp member
    exact envelope.sample?_external sampled
  have start : (fresh deployment address).batch = ∅ := rfl
  simp only [foldl_add_eq, start, List.foldl_append]
  rw [Batch.prepend_foldl_record _ _ external, Batch.prepend_empty_right]

/-- Putting a batch back is an action of the batches. For each key the points of the older batch
come before the pending ones, under the tags of these; of an internal series the pending one stays.
The order in which the entries are put back makes no difference, the counters stay, an empty batch
changes nothing, and it is one whether two batches are put back one after the other or as the one
that they make. What a stream leaves is what its first part leaves, put back onto what the rest
leaves. -/
theorem reattach_action (deployment address : String) :
    (∀ (collector : Collector) (older : Batch) (entries : List (SeriesId × Series)),
        entries.Perm older.toList →
        let restored := collector.reattach older
        restored.batch = older.prepend collector.batch ∧
          restored.batch = entries.foldl Batch.prependEntry collector.batch ∧
          restored.received = collector.received ∧ restored.sent = collector.sent ∧
          restored.internalTags = collector.internalTags) ∧
      (∀ (older pending : Batch) (key : SeriesId),
        (older.prepend pending)[key]? =
          match older[key]?, pending[key]? with
          | none, newer => newer
          | some series, none => some series
          | some series, some newer =>
            if key.kind = .internal then some newer
            else some ⟨newer.tags, series.points ++ newer.points⟩) ∧
      (∀ batch : Batch, Batch.prepend ∅ batch = batch ∧ batch.prepend ∅ = batch) ∧
      (∀ first second third : Batch,
        first.prepend (second.prepend third) = (first.prepend second).prepend third) ∧
      ∀ before after : List Envelope,
        let gathered (envelopes : List Envelope) : Batch :=
          (envelopes.foldl add (fresh deployment address)).batch
        gathered (before ++ after) = (gathered before).prepend (gathered after) := by
  refine ⟨?restored, ?lookup, ?unit, Batch.prepend_assoc, batch_foldl_add_append deployment address⟩
  case restored =>
    intro collector older entries same
    exact ⟨rfl, (Batch.foldl_prependEntry_of_perm same collector.batch).symm, rfl, rfl, rfl⟩
  case lookup =>
    intro older pending key
    rw [Batch.getElem?_prepend]
    cases older[key]? with
    | none => rfl
    | some series =>
        cases pending[key]? with
        | none => rfl
        | some newer => by_cases internal : key.kind = .internal <;> simp [Series.prepend, internal]
  case unit =>
    intro batch
    exact ⟨Batch.prepend_empty batch, Batch.prepend_empty_right batch⟩

theorem reattach_action_reversed :
    let collector := (fresh "" "10.0.0.1").raiseAlert 9
    let gauge : SeriesId × Series := (.of .value "o.m" ⟨[]⟩, ⟨⟨[]⟩, [⟨1, .ofNat 5⟩]⟩)
    let alert : SeriesId × Series :=
      (collector.internalKey "slowConsumerAlert", ⟨collector.internalTags, [⟨3, .ofNat 1⟩]⟩)
    let older : Batch := Std.ExtTreeMap.ofList [gauge, alert] compare
    [alert, gauge].Perm older.toList ∧
      (collector.reattach older).batch = [alert, gauge].foldl Batch.prependEntry collector.batch ∧
      (collector.reattach older).batch[alert.1]? =
        some ⟨collector.internalTags, [⟨9, .ofNat 1⟩]⟩ := by
  intro collector gauge alert older
  have same : [alert, gauge].Perm older.toList := by decide +kernel
  obtain ⟨restored, lookup, -⟩ := reattach_action "" "10.0.0.1"
  obtain ⟨prepended, oneByOne, -⟩ := restored collector older [alert, gauge] same
  refine ⟨same, oneByOne, ?_⟩
  rw [prepended, lookup]
  decide +kernel

end TelemetryRelay.Collector
