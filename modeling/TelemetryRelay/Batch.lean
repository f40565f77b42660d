import Std.Data.ExtTreeMap
import TelemetryRelay.Series

/-!
Batches of series. A batch is an extensional map in the order of its keys, so two batches are equal
as soon as they give the same series for every key, however they came about.
-/

namespace TelemetryRelay

abbrev Batch := Std.ExtTreeMap SeriesId Series compare

def Series.extend (sample : Sample) (series : Option Series) : Series :=
  match series with
  | none => ⟨sample.tags, [sample.point]⟩
  | some series => ⟨sample.tags, series.points ++ [sample.point]⟩

/-- An older series put in front of a pending one. Internal series hold one current point, so of
them the pending one stays as it is. -/
def Series.prepend (kind : SeriesKind) (older : Series) (pending : Option Series) : Series :=
  match pending with
  | none => older
  | some newer =>
    if kind = .internal then newer else ⟨newer.tags, older.points ++ newer.points⟩

namespace Batch

def record (batch : Batch) (sample : Sample) : Batch :=
  batch.alter sample.key fun series => some (.extend sample series)

theorem getElem?_record (batch : Batch) (sample : Sample) (key : SeriesId) :
    (batch.record sample)[key]? =
      if sample.key = key then some (.extend sample batch[key]?) else batch[key]? := by
  simp only [record, Std.ExtTreeMap.getElem?_alter, Std.compare_eq_iff_eq]
  by_cases same : sample.key = key
  · subst same
    simp only [if_true]
  · simp only [same, if_false]

def prepend (older pending : Batch) : Batch :=
  older.foldl
    (fun batch key series => batch.alter key fun newer => some (.prepend key.kind series newer))
    pending

theorem prepend_empty (pending : Batch) : prepend ∅ pending = pending := rfl

end Batch

end TelemetryRelay
