import TelemetryRelay.Batch

/-!
Putting one batch in front of another, key by key, and the points that a batch holds for a key.
-/

namespace TelemetryRelay

theorem Series.prepend_prepend (kind : SeriesKind) (first second : Series)
    (third : Option Series) :
    Series.prepend kind first (some (.prepend kind second third)) =
      .prepend kind (.prepend kind first (some second)) third := by
  cases third with
  | none => rfl
  | some pending =>
      by_cases internal : kind = .internal
      · simp only [Series.prepend, if_pos internal]
      · simp only [Series.prepend, if_neg internal, List.append_assoc]

namespace Batch

def prependEntry (batch : Batch) (entry : SeriesId × Series) : Batch :=
  batch.alter entry.1 fun newer => some (.prepend entry.1.kind entry.2 newer)

theorem prepend_eq_foldl (older pending : Batch) :
    older.prepend pending = older.toList.foldl prependEntry pending :=
  Std.ExtTreeMap.foldl_eq_foldl_toList

theorem getElem?_prependEntry (batch : Batch) (entry : SeriesId × Series) (key : SeriesId) :
    (batch.prependEntry entry)[key]? =
      if entry.1 = key then some (.prepend key.kind entry.2 batch[key]?) else batch[key]? := by
  simp only [prependEntry, Std.ExtTreeMap.getElem?_alter, Std.compare_eq_iff_eq]
  by_cases same : entry.1 = key
  · subst same
    simp only [if_true]
  · simp only [same, if_false]

theorem getElem?_foldl_prependEntry_of_absent (entries : List (SeriesId × Series))
    (pending : Batch) (key : SeriesId) (absent : ∀ entry ∈ entries, entry.1 ≠ key) :
    (entries.foldl prependEntry pending)[key]? = pending[key]? := by
  induction entries generalizing pending with
  | nil => rfl
  | cons first rest ih =>
      obtain ⟨different, others⟩ := List.forall_mem_cons.mp absent
      rw [List.foldl_cons, ih _ others, getElem?_prependEntry, if_neg different]

theorem getElem?_foldl_prependEntry_of_mem (entries : List (SeriesId × Series))
    (pending : Batch) (key : SeriesId) (series : Series)
    (distinct : entries.Pairwise fun first second => first.1 ≠ second.1)
    (member : (key, series) ∈ entries) :
    (entries.foldl prependEntry pending)[key]? =
      some (.prepend key.kind series pending[key]?) := by
  induction entries generalizing pending with
  | nil => simp at member
  | cons first rest ih =>
      obtain ⟨different, others⟩ := List.pairwise_cons.mp distinct
      rw [List.foldl_cons]
      rcases List.mem_cons.mp member with here | later
      · subst here
        have absent : ∀ entry ∈ rest, entry.1 ≠ key := fun entry belongs =>
          (different entry belongs).symm
        rw [getElem?_foldl_prependEntry_of_absent rest _ key absent, getElem?_prependEntry,
          if_pos rfl]
      · have firstDiffers : first.1 ≠ key := different (key, series) later
        rw [ih _ others later, getElem?_prependEntry, if_neg firstDiffers]

theorem distinct_toList (batch : Batch) :
    batch.toList.Pairwise fun first second => first.1 ≠ second.1 := by
  refine batch.distinct_keys_toList.imp ?_
  intro first second differ same
  exact differ (Std.compare_eq_iff_eq.mpr same)

theorem getElem?_prepend (older pending : Batch) (key : SeriesId) :
    (older.prepend pending)[key]? =
      match older[key]? with
      | none => pending[key]?
      | some series => some (.prepend key.kind series pending[key]?) := by
  rw [prepend_eq_foldl]
  cases found : older[key]? with
  | none =>
      apply getElem?_foldl_prependEntry_of_absent
      intro entry belongs same
      have present := Std.ExtTreeMap.mem_toList_iff_getElem?_eq_some.mp belongs
      rw [same, found] at present
      simp at present
  | some series =>
      exact getElem?_foldl_prependEntry_of_mem _ _ _ _ older.distinct_toList
        (Std.ExtTreeMap.mem_toList_iff_getElem?_eq_some.mpr found)

theorem prependEntry_comm (batch : Batch) {first second : SeriesId × Series}
    (differ : first.1 ≠ second.1) :
    (batch.prependEntry first).prependEntry second =
      (batch.prependEntry second).prependEntry first := by
  apply Std.ExtTreeMap.ext_getElem?
  intro key
  simp only [getElem?_prependEntry]
  by_cases here : first.1 = key
  · have there : second.1 ≠ key := fun same => differ (here.trans same.symm)
    simp only [if_pos here, if_neg there]
  · simp only [if_neg here]

theorem foldl_prependEntry_of_perm {entries : List (SeriesId × Series)} {older : Batch}
    (same : entries.Perm older.toList) (pending : Batch) :
    entries.foldl prependEntry pending = older.prepend pending := by
  rw [prepend_eq_foldl]
  refine same.foldl_eq' ?_ pending
  intro first firstMember second secondMember batch
  by_cases equal : first.1 = second.1
  · have held := Std.ExtTreeMap.mem_toList_iff_getElem?_eq_some.mp (same.mem_iff.mp firstMember)
    have alsoHeld :=
      Std.ExtTreeMap.mem_toList_iff_getElem?_eq_some.mp (same.mem_iff.mp secondMember)
    rw [equal, alsoHeld] at held
    rw [Prod.ext equal (Option.some.inj held).symm]
  · exact prependEntry_comm batch equal

theorem prepend_assoc (first second third : Batch) :
    first.prepend (second.prepend third) = (first.prepend second).prepend third := by
  apply Std.ExtTreeMap.ext_getElem?
  intro key
  simp only [getElem?_prepend]
  cases first[key]? with
  | none => rfl
  | some oldest =>
      cases second[key]? with
      | none => rfl
      | some older => exact congrArg some (Series.prepend_prepend key.kind oldest older _)

@[simp] theorem prepend_empty_right (older : Batch) : older.prepend ∅ = older := by
  apply Std.ExtTreeMap.ext_getElem?
  intro key
  rw [getElem?_prepend]
  cases found : older[key]? with
  | none => simp
  | some series => simp [Series.prepend]

theorem prepend_record (older pending : Batch) (sample : Sample)
    (external : sample.key.kind ≠ .internal) :
    older.prepend (pending.record sample) = (older.prepend pending).record sample := by
  apply Std.ExtTreeMap.ext_getElem?
  intro key
  simp only [getElem?_prepend, getElem?_record]
  by_cases same : sample.key = key
  · subst same
    cases older[sample.key]? <;> cases pending[sample.key]? <;>
      simp [Series.prepend, Series.extend, external]
  · simp only [same, if_false]

theorem prepend_foldl_record (older pending : Batch) {samples : List Sample}
    (external : ∀ sample ∈ samples, sample.key.kind ≠ .internal) :
    older.prepend (samples.foldl record pending) =
      samples.foldl record (older.prepend pending) := by
  induction samples generalizing pending with
  | nil => rfl
  | cons sample rest ih =>
      obtain ⟨here, later⟩ := List.forall_mem_cons.mp external
      rw [List.foldl_cons, ih _ later, prepend_record older pending sample here, List.foldl_cons]

theorem prepend_insert (older pending : Batch) (key : SeriesId) (series : Series)
    (internal : key.kind = .internal) :
    older.prepend (pending.insert key series) = (older.prepend pending).insert key series := by
  apply Std.ExtTreeMap.ext_getElem?
  intro other
  simp only [getElem?_prepend, Std.ExtTreeMap.getElem?_insert, Std.compare_eq_iff_eq]
  by_cases same : key = other
  · subst same
    cases older[key]? <;> simp [Series.prepend, internal]
  · simp only [same, if_false]

def points (batch : Batch) (key : SeriesId) : List Point :=
  match batch[key]? with
  | none => []
  | some series => series.points

@[simp] theorem points_empty (key : SeriesId) : points ∅ key = [] := by
  simp [points]

theorem extend_getElem? (batch : Batch) (key : SeriesId) (sample : Sample) :
    Series.extend sample batch[key]? = ⟨sample.tags, batch.points key ++ [sample.point]⟩ := by
  unfold points
  cases batch[key]? <;> rfl

theorem points_record (batch : Batch) (sample : Sample) (key : SeriesId) :
    (batch.record sample).points key =
      batch.points key ++ if sample.key = key then [sample.point] else [] := by
  by_cases same : sample.key = key
  · subst same
    rw [points, getElem?_record, if_pos rfl, if_pos rfl, extend_getElem?]
  · simp [points, getElem?_record, same]

theorem points_insert_of_ne (batch : Batch) (series : Series) {other key : SeriesId}
    (different : other ≠ key) : points (batch.insert other series) key = batch.points key := by
  simp only [points, Std.ExtTreeMap.getElem?_insert, Std.compare_eq_iff_eq, different, if_false]

theorem points_prepend (older pending : Batch) (key : SeriesId)
    (external : key.kind ≠ .internal) :
    (older.prepend pending).points key = older.points key ++ pending.points key := by
  simp only [points, getElem?_prepend]
  cases older[key]? <;> cases pending[key]? <;> simp [Series.prepend, external]

end Batch

end TelemetryRelay
