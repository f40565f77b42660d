import TelemetryRelay.Proofs.Batch
import TelemetryRelay.Proofs.ByteOrder
import TelemetryRelay.Proofs.Separators

/-!
A payload is made of the content of a batch alone. A table enumerates its entries in an order of its
own; sorted by their bytes they are the lines of the payload, whatever that order was.
-/

namespace TelemetryRelay

/-- The entries of a batch, each once, in whatever order they are enumerated. -/
structure Batch.Enumerates (batch : Batch) (entries : List (SeriesId × Series)) : Prop where
  distinct : entries.Pairwise fun first second => first.1 ≠ second.1
  lookup : ∀ key series, (key, series) ∈ entries ↔ batch[key]? = some series

/-- The payload of entries that come in any order: they are sorted by the bytes of their keys, and
each of them is a line. -/
def Payload.ofEntries (entries : List (SeriesId × Series)) (lead : String) (now : Int64) :
    Payload :=
  let sorted := entries.mergeSort fun first second =>
    (SeriesId.byteOrder first.1 second.1).isLE
  ⟨String.join (sorted.map fun (key, series) => Line.render lead now key.name series),
    sorted.length⟩

namespace Batch

theorem enumerates_toList (batch : Batch) : batch.Enumerates batch.toList where
  distinct := batch.distinct_toList
  lookup := fun _ _ => Std.ExtTreeMap.mem_toList_iff_getElem?_eq_some

theorem ordered_toList (batch : Batch) :
    batch.toList.Pairwise fun first second => SeriesId.byteOrder first.1 second.1 = .lt := by
  rw [SeriesId.byteOrder_eq]
  exact Std.ExtTreeMap.ordered_keys_toList

variable {batch : Batch} {entries : List (SeriesId × Series)}

theorem Enumerates.nodup (enumerated : batch.Enumerates entries) : entries.Nodup :=
  enumerated.distinct.imp fun differ same => differ (congrArg Prod.fst same)

theorem Enumerates.perm {others : List (SeriesId × Series)}
    (enumerated : batch.Enumerates entries) (alike : batch.Enumerates others) :
    entries.Perm others := by
  rw [List.perm_ext_iff_of_nodup enumerated.nodup alike.nodup]
  rintro ⟨key, series⟩
  rw [enumerated.lookup, alike.lookup]

theorem enumerates_iff : batch.Enumerates entries ↔ entries.Perm batch.toList := by
  constructor
  · exact fun enumerated => enumerated.perm batch.enumerates_toList
  · intro same
    have differs : ∀ {first second : SeriesId × Series}, first.1 ≠ second.1 → second.1 ≠ first.1 :=
      fun differ => differ.symm
    refine ⟨(same.pairwise_iff differs).mpr batch.distinct_toList, ?_⟩
    intro key series
    rw [same.mem_iff]
    exact batch.enumerates_toList.lookup key series

theorem Enumerates.sorted (enumerated : batch.Enumerates entries) :
    (entries.mergeSort fun first second => (SeriesId.byteOrder first.1 second.1).isLE) =
      batch.toList := by
  rw [SeriesId.byteOrder_eq]
  have ordered : (entries.mergeSort fun first second =>
      (compare first.1 second.1).isLE).Pairwise fun first second =>
        (compare first.1 second.1).isLE = true := by
    apply List.pairwise_mergeSort
    · intro first second third below above
      exact Std.TransCmp.isLE_trans below above
    · intro first second
      cases order : compare first.1 second.1 with
      | lt => rfl
      | eq => rfl
      | gt =>
          rw [Std.OrientedCmp.lt_of_gt order]
          rfl
  have strictly : batch.toList.Pairwise fun first second =>
      (compare first.1 second.1).isLE = true := by
    refine Std.ExtTreeMap.ordered_keys_toList.imp ?_
    intro first second below
    rw [below]
    rfl
  have content : (entries.mergeSort fun first second => (compare first.1 second.1).isLE).Perm
      batch.toList :=
    (List.mergeSort_perm _ _).trans (enumerated.perm batch.enumerates_toList)
  refine List.Perm.eq_of_pairwise ?_ ordered strictly content
  rintro ⟨key, series⟩ ⟨other, others⟩ member otherMember below above
  have same : key = other :=
    Std.compare_eq_iff_eq.mp (Std.OrientedCmp.isLE_antisymm below above)
  subst same
  have found := (enumerated.lookup key series).mp (List.mem_mergeSort.mp member)
  have alsoFound := (batch.enumerates_toList.lookup key others).mp otherMember
  rw [found] at alsoFound
  rw [Option.some.inj alsoFound]

theorem Enumerates.payload (enumerated : batch.Enumerates entries) (lead : String) (now : Int64) :
    Payload.ofEntries entries lead now = batch.payload lead now := by
  simp only [Payload.ofEntries, enumerated.sorted, Batch.payload, Std.ExtTreeMap.length_toList]

end Batch

namespace Line

def FieldsOf (points : List Point) (text : String) : Prop :=
  (points = [] ∧ text = "") ∨
    (points ≠ [] ∧ text.toList.splitOn ',' =
      points.map fun point => ("value=" ++ Decimal.Layout.value.render point.value).toList)

theorem fieldsOf_fields (points : List Point) : FieldsOf points (fields points) := by
  by_cases empty : points = []
  · subst empty
    exact Or.inl ⟨rfl, rfl⟩
  · refine Or.inr ⟨empty, ?_⟩
    have whole : ∀ text ∈ (points.map field).map String.toList, ',' ∉ text := by
      intro text member
      simp only [List.mem_map] at member
      obtain ⟨_, ⟨point, -, rfl⟩, rfl⟩ := member
      exact separator_not_mem_field (by decide) point
    have filled : (points.map field).map String.toList ≠ [] := by simpa using empty
    have pieces := List.splitOn_intercalate ',' whole filled
    rw [fields, String.toList_intercalate]
    refine pieces.trans ?_
    rw [List.map_map]
    rfl

end Line

namespace Batch

/-- The payload of a batch is a function of its content. Tables that hold the same series have one
payload, in whatever order each enumerates them: a line for each series, in the strict order of the
bytes of their keys, and on it a field for each of its points, in their order. -/
theorem payload_of_content (left right : Batch) (same : ∀ key : SeriesId, left[key]? = right[key]?)
    (entries others : List (SeriesId × Series)) (enumerated : left.Enumerates entries)
    (alike : right.Enumerates others) (lead : String) (now : Int64) :
    let payload := left.payload lead now
    Payload.ofEntries entries lead now = payload ∧ Payload.ofEntries others lead now = payload ∧
      ∃ ordered, left.Enumerates ordered ∧
        (ordered.Pairwise fun first second => SeriesId.byteOrder first.1 second.1 = .lt) ∧
        payload.text =
          String.join (ordered.map fun entry => Line.render lead now entry.1.name entry.2) ∧
        payload.count = ordered.length ∧
        ∀ entry ∈ ordered, ∃ values,
          Line.FieldsOf entry.2.points values ∧
          Line.render lead now entry.1.name entry.2 =
            Line.head lead entry.1.name entry.2.tags ++ " " ++ values ++ " " ++
              toString (Line.nanoseconds (Line.time entry.2.points now)) ++ "\n" := by
  intro payload
  have equal : left = right := Std.ExtTreeMap.ext_getElem? same
  subst equal
  refine ⟨enumerated.payload lead now, alike.payload lead now, left.toList,
    left.enumerates_toList, left.ordered_toList, rfl, left.count_payload lead now, ?_⟩
  intro entry _
  exact ⟨Line.fields entry.2.points, Line.fieldsOf_fields entry.2.points, rfl⟩

theorem payload_of_content_reordered :
    let gauge : SeriesId × Series := (.of .value "o.m" ⟨[]⟩, ⟨⟨[]⟩, [⟨1, .ofNat 5⟩]⟩)
    let counter : SeriesId × Series :=
      (.of .counter "o.m" ⟨["job=a"]⟩, ⟨⟨["job=a"]⟩, [⟨2, .ofNat 7⟩, ⟨1, .ofNat 8⟩]⟩)
    let below : SeriesId × Series := (.of .value "o.\uFFFD" ⟨[]⟩, ⟨⟨[]⟩, [⟨3, .ofNat 1⟩]⟩)
    let above : SeriesId × Series := (.of .value "o.😀" ⟨[]⟩, ⟨⟨[]⟩, []⟩)
    let batch : Batch := Std.ExtTreeMap.ofList [above, counter, below, gauge] compare
    batch.Enumerates [above, counter, below, gauge] ∧
      batch.Enumerates [counter, above, gauge, below] ∧
      Payload.ofEntries [above, counter, below, gauge] "" 4 =
        Payload.ofEntries [counter, above, gauge, below] "" 4 ∧
      (Payload.ofEntries [counter, above, gauge, below] "" 4).text =
        "o.m value=5 1000000000\n" ++ "o.m,job=a value=7,value=8 2000000000\n" ++
          "o.\uFFFD value=1 3000000000\n" ++ "o.😀  4000000000\n" := by
  intro gauge counter below above batch
  have entries : batch.toList = [gauge, counter, below, above] := by decide +kernel
  have enumerated : batch.Enumerates [above, counter, below, gauge] := by
    rw [enumerates_iff, entries]
    decide +kernel
  have alike : batch.Enumerates [counter, above, gauge, below] := by
    rw [enumerates_iff, entries]
    decide +kernel
  obtain ⟨first, second, -⟩ :=
    payload_of_content batch batch (fun _ => rfl) _ _ enumerated alike "" 4
  refine ⟨enumerated, alike, first.trans second.symm, ?_⟩
  rw [second]
  decide +kernel

end Batch

end TelemetryRelay
