import Mathlib.Data.List.Induction
import Mathlib.Data.Multiset.Sort
import Mathlib.Data.Set.Function
import Mathlib.Data.String.Basic
import TelemetryRelay.Proofs.Intake
import TelemetryRelay.Proofs.Rounding
import TelemetryRelay.Proofs.TagDigest

/-!
Batches group by content. The keys of a batch hold a digest for the tags; unless two of the byte
strings that were hashed collide, its series are the classes of envelopes that say the same of what
they measure.
-/

namespace TelemetryRelay

/-- What is measured: the kind, the name with its origin, and the tags in no order. -/
structure Content where
  kind : SeriesKind
  name : String
  tags : Multiset String
deriving DecidableEq

def Content.key (content : Content) : SeriesId :=
  .of content.kind content.name ⟨content.tags.sort⟩

def label? (key : String) (value : Option String) : Option String :=
  (value.filter fun text => text ≠ "").map fun text => key ++ "=" ++ text

theorem Tags.written_of (pairs : List (String × Option String)) :
    (Tags.of (pairs.map fun (key, value) => ⟨key, value.getD ""⟩)).written =
      pairs.filterMap fun (key, value) => label? key value := by
  induction pairs with
  | nil => rfl
  | cons pair rest ih =>
      obtain ⟨key, value⟩ := pair
      simp only [of, List.map_cons, List.filterMap_cons] at ih ⊢
      rw [← ih]
      cases value with
      | none => simp [label?]
      | some text => by_cases empty : text = "" <;> simp [label?, empty, Option.filter, Tag.written]

namespace Envelope

def labels (envelope : Envelope) : List String :=
  let fixed := [("deployment", envelope.deployment), ("job", envelope.job),
    ("index", envelope.index), ("ip", envelope.ip)]
  let free := envelope.tags.map fun tag => (tag.key, some tag.value)
  (fixed ++ free).filterMap fun (key, value) => label? key value

def content? (envelope : Envelope) : Option Content :=
  match envelope.event with
  | .valueMetric metric =>
    if metric.value.isFinite then
      some ⟨.value, envelope.originText ++ "." ++ metric.name, envelope.labels⟩
    else none
  | .counterEvent counter =>
    some ⟨.counter, envelope.originText ++ "." ++ counter.name, envelope.labels⟩
  | .other _ => none

def value (envelope : Envelope) : Binary64 :=
  match envelope.event with
  | .valueMetric metric => metric.value
  | .counterEvent counter => .ofNat counter.total.toNat
  | .other _ => .zero

def point (envelope : Envelope) : Point :=
  ⟨envelope.timestamp / 1000000000, envelope.value⟩

/-- The byte strings that are hashed when the envelope is added. -/
def hashed (envelope : Envelope) : List (List UInt8) :=
  match envelope.content? with
  | some _ => envelope.seriesTags.hashed
  | none => []

theorem written_seriesTags (envelope : Envelope) :
    envelope.seriesTags.written = envelope.labels := by
  rw [labels, ← Tags.written_of]
  simp [seriesTags, fixedTags, Function.comp_def]

theorem content?_eq (envelope : Envelope) :
    envelope.content? =
      (envelope.measurement?.filter fun measurement => measurement.value.isFinite).map
        fun measurement => ⟨measurement.kind, measurement.name, envelope.labels⟩ := by
  unfold content? measurement?
  cases envelope.event with
  | valueMetric metric =>
      by_cases finite : metric.value.isFinite = true <;> simp [finite, Option.filter, qualifiedName]
  | counterEvent counter =>
      simp [Option.filter, Binary64.isFinite_ofUInt64, qualifiedName]
  | other type => rfl

theorem value_of_measurement {envelope : Envelope} {measurement : Measurement}
    (measured : envelope.measurement? = some measurement) :
    envelope.value = measurement.value := by
  unfold measurement? at measured
  unfold value
  cases event : envelope.event with
  | valueMetric metric =>
      rw [event] at measured
      exact congrArg Measurement.value (Option.some.inj measured)
  | counterEvent counter =>
      rw [event] at measured
      exact congrArg Measurement.value (Option.some.inj measured)
  | other type =>
      rw [event] at measured
      cases measured

theorem content?_tags {envelope : Envelope} {content : Content}
    (found : envelope.content? = some content) : content.tags = envelope.labels := by
  rw [content?_eq] at found
  obtain ⟨measurement, -, rfl⟩ := Option.map_eq_some_iff.mp found
  rfl

theorem digest_of_content {envelope : Envelope} {content : Content}
    (found : envelope.content? = some content) :
    content.key.digest = envelope.seriesTags.digest := by
  apply Tags.digest_eq_of_perm
  rw [written_seriesTags, ← Multiset.coe_eq_coe, ← content?_tags found]
  exact Multiset.sort_eq _ _

theorem sample?_eq (envelope : Envelope) :
    envelope.sample? =
      envelope.content?.map fun content => ⟨content.key, envelope.seriesTags, envelope.point⟩ := by
  have keyed (content : Content) (found : envelope.content? = some content) :
      content.key = .of content.kind content.name envelope.seriesTags := by
    rw [SeriesId.of, ← digest_of_content found]
    rfl
  rw [content?_eq] at keyed ⊢
  unfold sample?
  cases measured : envelope.measurement? with
  | none => rfl
  | some measurement =>
      by_cases finite : measurement.value.isFinite = true
      · have key := keyed ⟨measurement.kind, measurement.name, envelope.labels⟩
          (by simp [measured, Option.filter, finite])
        simp [Option.filter, finite, key, point, value_of_measurement measured, seconds]
      · simp [Option.filter, finite]

end Envelope

/-- A series of the points of envelopes, in order, with the tags of the last of them. -/
def seriesOf? (envelopes : List Envelope) : Option Series :=
  envelopes.getLast?.map fun last => ⟨last.seriesTags, envelopes.map Envelope.point⟩

def Content.members (content : Content) (envelopes : List Envelope) : List Envelope :=
  envelopes.filter fun envelope => envelope.content? = some content

def contents (envelopes : List Envelope) : Set Content :=
  {content | ∃ envelope ∈ envelopes, envelope.content? = some content}

def SeriesId.members (key : SeriesId) (envelopes : List Envelope) : List Envelope :=
  envelopes.filter fun envelope => envelope.content?.map Content.key = some key

theorem SeriesId.members_append (key : SeriesId) (before after : List Envelope) :
    key.members (before ++ after) = key.members before ++ key.members after :=
  List.filter_append before after

theorem SeriesId.members_singleton (key : SeriesId) (envelope : Envelope) :
    key.members [envelope] =
      if envelope.content?.map Content.key = some key then [envelope] else [] := by
  simp only [members, List.filter_singleton, Bool.cond_decide]

namespace Collector

theorem getElem?_add (collector : Collector) (envelope : Envelope) (key : SeriesId) :
    (collector.add envelope).batch[key]? =
      if envelope.content?.map Content.key = some key then
        some (.extend ⟨key, envelope.seriesTags, envelope.point⟩ collector.batch[key]?)
      else collector.batch[key]? := by
  rw [batch_add, envelope.sample?_eq]
  cases envelope.content? with
  | none => simp
  | some content =>
      simp only [Option.map_some, Batch.getElem?_record, Option.some.injEq]
      by_cases same : content.key = key <;> simp [same]

theorem points_add_content (collector : Collector) (envelope : Envelope) (key : SeriesId) :
    (collector.add envelope).batch.points key =
      collector.batch.points key ++ (key.members [envelope]).map Envelope.point := by
  rw [Batch.points, getElem?_add, key.members_singleton]
  by_cases same : envelope.content?.map Content.key = some key
  · rw [if_pos same, if_pos same, Batch.extend_getElem?]
    rfl
  · rw [if_neg same, if_neg same, List.map_nil, List.append_nil]
    rfl

theorem points_foldl_add (collector : Collector) (envelopes : List Envelope) (key : SeriesId) :
    (envelopes.foldl add collector).batch.points key =
      collector.batch.points key ++ (key.members envelopes).map Envelope.point := by
  induction envelopes generalizing collector with
  | nil => exact (List.append_nil _).symm
  | cons envelope rest ih =>
      have members : key.members (envelope :: rest) = key.members [envelope] ++ key.members rest :=
        key.members_append [envelope] rest
      rw [List.foldl_cons, ih, points_add_content, members, List.map_append, List.append_assoc]

theorem getElem?_foldl_add_onto (collector : Collector) (envelopes : List Envelope)
    (key : SeriesId) :
    (envelopes.foldl add collector).batch[key]? =
      match (key.members envelopes).getLast? with
      | none => collector.batch[key]?
      | some last =>
        some ⟨last.seriesTags,
          collector.batch.points key ++ (key.members envelopes).map Envelope.point⟩ := by
  -- From the back, since the last envelope of a series decides its tags.
  induction envelopes using List.reverseRecOn with
  | nil => rfl
  | append_singleton envelopes last ih =>
      rw [List.foldl_append, List.foldl_cons, List.foldl_nil, getElem?_add, key.members_append,
        key.members_singleton]
      by_cases same : last.content?.map Content.key = some key
      · rw [if_pos same, if_pos same, Batch.extend_getElem?, points_foldl_add]
        simp
      · rw [if_neg same, if_neg same, List.append_nil, ih]

theorem getElem?_foldl_add (deployment address : String) (envelopes : List Envelope)
    (key : SeriesId) :
    (envelopes.foldl add (fresh deployment address)).batch[key]? =
      seriesOf? (key.members envelopes) := by
  have start : (fresh deployment address).batch = ∅ := rfl
  rw [getElem?_foldl_add_onto, start, seriesOf?]
  cases (key.members envelopes).getLast? <;> simp

theorem received_foldl_add (collector : Collector) (envelopes : List Envelope) :
    (envelopes.foldl add collector).received = collector.received + .ofNat envelopes.length := by
  rw [foldl_add_eq]

end Collector

theorem Content.eq_or_collides {left right : Content} {envelopes : List Envelope}
    (leftMember : left ∈ contents envelopes) (rightMember : right ∈ contents envelopes)
    (same : left.key = right.key) :
    left = right ∨ Sha256.Collides (envelopes.flatMap Envelope.hashed) := by
  obtain ⟨first, firstMember, firstContent⟩ := leftMember
  obtain ⟨second, secondMember, secondContent⟩ := rightMember
  have hashed {envelope : Envelope} {content : Content} (member : envelope ∈ envelopes)
      (found : envelope.content? = some content) :
      envelope.seriesTags.hashed ⊆ envelopes.flatMap Envelope.hashed := by
    intro input belongs
    refine List.mem_flatMap.mpr ⟨envelope, member, ?_⟩
    simpa only [Envelope.hashed, found] using belongs
  have digests : first.seriesTags.digest = second.seriesTags.digest := by
    rw [← Envelope.digest_of_content firstContent, ← Envelope.digest_of_content secondContent, same]
  rcases Tags.perm_or_collides digests with tags | collides
  · rw [Envelope.written_seriesTags, Envelope.written_seriesTags, ← Multiset.coe_eq_coe,
      ← Envelope.content?_tags firstContent, ← Envelope.content?_tags secondContent] at tags
    have kind : left.kind = right.kind := congrArg SeriesId.kind same
    have name : left.name = right.name := congrArg SeriesId.name same
    cases left
    cases right
    exact Or.inl (by simp_all)
  · exact Or.inr (collides.mono (List.append_subset.mpr
      ⟨hashed firstMember firstContent, hashed secondMember secondContent⟩))

section

variable {envelopes : List Envelope}

theorem Content.members_ne_nil {content : Content} (member : content ∈ contents envelopes) :
    content.members envelopes ≠ [] := by
  obtain ⟨envelope, belongs, found⟩ := member
  exact List.ne_nil_of_mem (List.mem_filter.mpr ⟨belongs, decide_eq_true found⟩)

theorem Content.members_key (injective : Set.InjOn Content.key (contents envelopes))
    {content : Content} (member : content ∈ contents envelopes) :
    content.key.members envelopes = content.members envelopes := by
  apply List.filter_congr
  intro envelope belongs
  rw [decide_eq_decide, Option.map_eq_some_iff]
  constructor
  · rintro ⟨other, found, same⟩
    rw [found, injective ⟨envelope, belongs, found⟩ member same]
  · intro found
    exact ⟨content, found, rfl⟩

theorem SeriesId.exists_content {key : SeriesId} (occupied : key.members envelopes ≠ []) :
    ∃ content ∈ contents envelopes, content.key = key := by
  obtain ⟨envelope, member⟩ := List.exists_mem_of_ne_nil _ occupied
  obtain ⟨belongs, keyed⟩ := List.mem_filter.mp member
  obtain ⟨content, found, same⟩ := Option.map_eq_some_iff.mp (of_decide_eq_true keyed)
  exact ⟨content, ⟨envelope, belongs, found⟩, same⟩

end

namespace Collector

/-- The series of a batch are the classes of the envelopes, unless there is a collision among what
was hashed: the series of a class has a point for each of its envelopes, in the order in which they
came, and the tags of the last of them. -/
theorem batch_groups_by_content (deployment address : String) (envelopes : List Envelope) :
    let collector := envelopes.foldl add (fresh deployment address)
    collector.received = .ofNat envelopes.length ∧
      (Sha256.Collides (envelopes.flatMap Envelope.hashed) ∨
        Set.BijOn Content.key (contents envelopes) {key | key ∈ collector.batch} ∧
          ∀ content ∈ contents envelopes,
            ∃ last, (content.members envelopes).getLast? = some last ∧
              collector.batch[content.key]? =
                some ⟨last.seriesTags, (content.members envelopes).map Envelope.point⟩) := by
  intro collector
  have lookup := getElem?_foldl_add deployment address envelopes
  refine ⟨by simp [collector, received_foldl_add, fresh], ?_⟩
  by_cases collides : Sha256.Collides (envelopes.flatMap Envelope.hashed)
  · exact Or.inl collides
  have injective : Set.InjOn Content.key (contents envelopes) :=
    fun left leftMember right rightMember same =>
      (Content.eq_or_collides leftMember rightMember same).resolve_right collides
  have classes : ∀ content ∈ contents envelopes,
      ∃ last, (content.members envelopes).getLast? = some last ∧
        collector.batch[content.key]? =
          some ⟨last.seriesTags, (content.members envelopes).map Envelope.point⟩ := by
    intro content member
    obtain ⟨last, ends⟩ := Option.isSome_iff_exists.mp
      (List.getLast?_isSome.mpr (Content.members_ne_nil member))
    refine ⟨last, ends, ?_⟩
    rw [lookup, Content.members_key injective member, seriesOf?, ends]
    rfl
  refine Or.inr ⟨⟨?_, injective, ?_⟩, classes⟩
  · intro content member
    obtain ⟨last, -, found⟩ := classes content member
    exact Std.ExtTreeMap.mem_iff_isSome_getElem?.mpr (Option.isSome_iff_exists.mpr ⟨_, found⟩)
  · intro key member
    apply SeriesId.exists_content
    intro empty
    have present := Std.ExtTreeMap.mem_iff_isSome_getElem?.mp member
    rw [lookup, empty] at present
    cases present

end Collector

end TelemetryRelay
