import TelemetryRelay.Envelope

/-!
Series and the samples that envelopes add to them. A series is identified by its kind, its name and
the digest of its tags; keys order by name, then kind, then digest.
-/

namespace TelemetryRelay

inductive SeriesKind
  | value
  | counter
  | internal
deriving DecidableEq, Repr

namespace SeriesKind

def name : SeriesKind → String
  | .value => "value"
  | .counter => "counter"
  | .internal => "internal"

def rank : SeriesKind → Nat
  | .value => 0
  | .counter => 1
  | .internal => 2

theorem rank_inj {left right : SeriesKind} (same : left.rank = right.rank) : left = right := by
  cases left <;> cases right <;> first | rfl | simp [rank] at same

end SeriesKind

structure SeriesId where
  kind : SeriesKind
  name : String
  digest : Digest
deriving DecidableEq, Repr

namespace SeriesId

def of (kind : SeriesKind) (name : String) (tags : Tags) : SeriesId :=
  ⟨kind, name, tags.digest⟩

def order : SeriesId → SeriesId → Ordering :=
  compareLex (compareOn SeriesId.name)
    (compareLex (compareOn fun key => key.kind.rank) (compareOn fun key => key.digest.number))

instance : Ord SeriesId := ⟨order⟩

instance : Std.TransOrd SeriesId :=
  inferInstanceAs (Std.TransCmp (compareLex (compareOn SeriesId.name)
    (compareLex (compareOn fun key => key.kind.rank) (compareOn fun key => key.digest.number))))

theorem eq_of_order {left right : SeriesId} (same : order left right = .eq) : left = right := by
  simp only [order, compareLex, Ordering.then_eq_eq, compareOn, Std.compare_eq_iff_eq] at same
  obtain ⟨name, kind, digest⟩ := same
  cases left
  cases right
  simp only [SeriesId.mk.injEq]
  exact ⟨SeriesKind.rank_inj kind, name, congrArg Digest.mk digest⟩

instance : Std.LawfulEqOrd SeriesId where
  eq_of_compare := eq_of_order

end SeriesId

structure Point where
  seconds : Int64
  value : Binary64
deriving DecidableEq, Repr

structure Series where
  tags : Tags
  points : List Point
deriving DecidableEq, Repr

structure Measurement where
  kind : SeriesKind
  name : String
  value : Binary64
deriving DecidableEq, Repr

structure Sample where
  key : SeriesId
  tags : Tags
  point : Point
deriving DecidableEq, Repr

namespace Envelope

def qualifiedName (envelope : Envelope) (name : String) : String :=
  envelope.originText ++ "." ++ name

/-- The measurement of an event with a payload. A counter counts by its running total. -/
def measurement? (envelope : Envelope) : Option Measurement :=
  match envelope.event with
  | .valueMetric metric => some ⟨.value, envelope.qualifiedName metric.name, metric.value⟩
  | .counterEvent counter =>
    some ⟨.counter, envelope.qualifiedName counter.name, .ofNat counter.total.toNat⟩
  | .other _ => none

def key? (envelope : Envelope) : Option SeriesId :=
  envelope.measurement?.map fun measurement =>
    .of measurement.kind measurement.name envelope.seriesTags

def seconds (envelope : Envelope) : Int64 :=
  envelope.timestamp / 1000000000

def sample? (envelope : Envelope) : Option Sample :=
  match envelope.measurement? with
  | some measurement =>
    if measurement.value.isFinite then
      let tags := envelope.seriesTags
      some ⟨.of measurement.kind measurement.name tags, tags, ⟨envelope.seconds, measurement.value⟩⟩
    else none
  | none => none

end Envelope

end TelemetryRelay
