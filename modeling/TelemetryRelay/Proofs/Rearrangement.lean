import TelemetryRelay.Proofs.Decoding
import TelemetryRelay.Proofs.Members

/-!
Envelopes whose members are rearranged. Neither the order of the members of an envelope or of its
payloads nor anything that is added under unknown keys changes what is decoded.
-/

namespace TelemetryRelay.Envelope

open Json

theorem valueMetric_regular : valueMetricRecord.Regular where
  whole := whole_valueMetric_field
  confined := local_valueMetric_field
  skips := skipsBlank_valueMetric_field
  commute := by
    simp only [valueMetricRecord, List.pairwise_cons, List.forall_mem_cons, List.not_mem_nil,
      IsEmpty.forall_iff, implies_true, List.Pairwise.nil, and_true]
    and_intros
    all_goals exact Field.commutes_of fun _ _ _ => rfl

theorem counterEvent_regular : counterEventRecord.Regular where
  whole := whole_counterEvent_field
  confined := local_counterEvent_field
  skips := skipsBlank_counterEvent_field
  commute := by
    simp only [counterEventRecord, List.pairwise_cons, List.forall_mem_cons, List.not_mem_nil,
      IsEmpty.forall_iff, implies_true, List.Pairwise.nil, and_true]
    and_intros
    all_goals exact Field.commutes_of fun _ _ _ => rfl

theorem draft_regular : draftRecord.Regular where
  whole := whole_draft_field
  confined := local_draft_field
  skips := skipsBlank_draft_field
  commute := by
    simp only [draftRecord, List.pairwise_cons, List.forall_mem_cons, List.not_mem_nil,
      IsEmpty.forall_iff, implies_true, List.Pairwise.nil, and_true]
    and_intros
    all_goals exact Field.commutes_of fun _ _ _ => rfl

/-- Two texts of objects of which the second has the members of the first, written alike, in any
order and among members with other keys than `keys`. -/
def Reordered (keys : List String) (text other : List Char) : Prop :=
  ∃ members others, IsObject members text ∧ IsObject others other ∧
    Shuffled keys (fun _ value other => value = other) members others

/-- A value of an envelope's member, which in a payload may be reordered. -/
inductive Rewritten : String → List Char → List Char → Prop
  | same (key : String) (value : List Char) : Rewritten key value value
  | valueMetric {value other : List Char}
      (reordered : Reordered valueMetricRecord.keys value other) :
      Rewritten "valueMetric" value other
  | counterEvent {value other : List Char}
      (reordered : Reordered counterEventRecord.keys value other) :
      Rewritten "counterEvent" value other

/-- Two texts of objects with the same members, in whatever order and layout, but for those of the
second one that no field has the key of; and so on in the payloads. -/
def Rearranged (text other : List Char) : Prop :=
  ∃ members others, IsDocument members text ∧ IsDocument others other ∧
    Shuffled draftRecord.keys Rewritten members others

theorem take_of_rewritten {key : String} {value other : List Char}
    (rewritten : Rewritten key value other) (progress : Finset String × Draft) :
    draftRecord.take progress (key, value) = draftRecord.take progress (key, other) := by
  cases rewritten with
  | same => rfl
  | valueMetric reordered =>
      obtain ⟨members, others, object, otherObject, shuffled⟩ := reordered
      exact Record.take_object valueMetric_regular rfl object otherObject shuffled progress
  | counterEvent reordered =>
      obtain ⟨members, others, object, otherObject, shuffled⟩ := reordered
      exact Record.take_object counterEvent_regular rfl object otherObject shuffled progress

theorem ofMembers?_of_rearranged {members others : List (String × List Char)} {other : List Char}
    (document : IsDocument others other)
    (shuffled : Shuffled draftRecord.keys Rewritten members others) :
    draftRecord.ofMembers? others = draftRecord.ofMembers? members := by
  obtain ⟨lead, object, tail, -, ⟨inner, lists, -⟩, -⟩ := document
  exact Record.ofMembers?_of_shuffled draft_regular shuffled
    (fun _ _ _ rewritten => take_of_rewritten rewritten) lists.value

theorem exists_document_of_decode {text inner : List Char} {envelope : Envelope}
    (opened : skipBlank text = '\x7b' :: inner) (decoded : decode text = .ok envelope) :
    ∃ members, IsDocument members text := by
  obtain ⟨⟨draft, rest⟩, read, decoded⟩ := bind_eq_ok.mp decoded
  obtain ⟨_, -, decoded⟩ := bind_eq_ok.mp decoded
  obtain ⟨⟨⟩, finished, -⟩ := bind_eq_ok.mp decoded
  obtain ⟨members, listed, lists, rfl⟩ :=
    Record.exists_lists_of_read whole_draft_field opened (mapError_eq_ok.mp read)
  obtain ⟨lead, blank, -, rfl⟩ := skipBlank_eq_cons_iff.mp opened
  exact ⟨members, lead, '\x7b' :: (listed ++ ['\x7d']), rest, blank, ⟨listed, lists, rfl⟩,
    finish_eq_ok_iff.mp (mapError_eq_ok.mp finished), by simp⟩

theorem decode_document {members : List (String × List Char)} {text : List Char}
    (document : IsDocument members text) :
    (∀ draft, draftRecord.ofMembers? members = some draft → decode text = draft.complete) ∧
      (draftRecord.ofMembers? members = none → ∃ fault, decode text = .error (.json fault)) := by
  obtain ⟨tail, blank, read⟩ := Record.toOption_read_document draft_regular document
  constructor
  · intro draft made
    rw [made] at read
    cases accepted : draftRecord.read text with
    | error fault =>
        rw [accepted] at read
        cases read
    | ok result =>
        rw [accepted] at read
        cases read
        rw [decode, accepted]
        change (draft.complete >>= fun envelope =>
          (finish tail).mapError Fault.json >>= fun _ => .ok envelope) = draft.complete
        rw [finish_eq_ok_iff.mpr blank]
        cases draft.complete <;> rfl
  · intro refused
    rw [refused] at read
    cases accepted : draftRecord.read text with
    | ok result =>
        rw [accepted] at read
        cases read
    | error fault =>
        refine ⟨fault, ?_⟩
        rw [decode, accepted]
        rfl

/-- A rearranged text is decoded to the same envelope, and one that is not decoded stays so; a
missing payload stays the fault that is found. -/
theorem decode_rearranged {text other : List Char} (rearranged : Rearranged text other) :
    (∀ envelope, decode text = .ok envelope → decode other = .ok envelope) ∧
      (∀ type, decode text = .error (.missingPayload type) →
        decode other = .error (.missingPayload type)) ∧
      ∀ fault, decode text = .error fault → ∃ otherFault, decode other = .error otherFault := by
  obtain ⟨members, others, document, otherDocument, shuffled⟩ := rearranged
  obtain ⟨decoded, refused⟩ := decode_document document
  obtain ⟨otherDecoded, otherRefused⟩ := decode_document otherDocument
  rw [ofMembers?_of_rearranged otherDocument shuffled] at otherDecoded otherRefused
  cases made : draftRecord.ofMembers? members with
  | some draft =>
      have same : decode other = decode text :=
        (otherDecoded draft made).trans (decoded draft made).symm
      rw [same]
      exact ⟨fun _ => id, fun _ => id, fun fault failed => ⟨fault, failed⟩⟩
  | none =>
      obtain ⟨fault, failed⟩ := refused made
      obtain ⟨otherFault, otherFailed⟩ := otherRefused made
      rw [failed, otherFailed]
      refine ⟨?_, ?_, fun _ _ => ⟨_, rfl⟩⟩
      · intro envelope decoded
        cases decoded
      · intro type missing
        cases missing

theorem decode_rearranged_deep :
    let metric := "\x7b\"name\":\"load\",\"value\":2,\"unit\":\"ms\"\x7d".toList
    let text := "\x7b\"valueMetric\":".toList ++ metric ++
      ",\"eventType\":\"ValueMetric\",\"timestamp\":1\x7d".toList
    let deep := "[\x7b\"name\":[1e999,\"\\ud800\",\x7b\x7d]\x7d, null]".toList
    let otherMetric := "\x7b\"unit\":\"ms\",\"deep\" : ".toList ++ deep ++
      ",\"value\":2 ,\"n\\u0061me\":\"load\"\x7d".toList
    let other := "\x7b\"timestamp\":1,\"total\":".toList ++ deep ++
      ",\"eventType\":\"ValueMetric\",\"Timestamp\":true,\"valueMetric\":".toList ++
      otherMetric ++ "\x7d".toList
    let bare := "\x7b\"eventType\":\"CounterEvent\",\"timestamp\":1\x7d".toList
    let otherBare := "\x7b\"timestamp\":1,\"CounterEvent\":".toList ++ deep ++
      ",\"eventType\":\"CounterEvent\"\x7d".toList
    let untyped := "\x7b\"valueMetric\":".toList ++ metric ++ "\x7d".toList
    let otherUntyped := "\x7b\"EventType\":\"Error\",\"valueMetric\":".toList ++ otherMetric ++
      "\x7d".toList
    let envelope : Envelope :=
      ⟨none, 1, none, none, none, none, [], .valueMetric ⟨"load", .ofNat 2, "ms"⟩⟩
    Rearranged text other ∧ decode text = .ok envelope ∧ decode other = .ok envelope ∧
      Rearranged bare otherBare ∧ decode bare = .error (.missingPayload .counterEvent) ∧
      decode otherBare = .error (.missingPayload .counterEvent) ∧
      Rearranged untyped otherUntyped ∧
      decode untyped = .error (.json (.missingField "eventType")) ∧
      ∃ fault, decode otherUntyped = .error fault := by
  intro metric text deep otherMetric other bare otherBare untyped otherUntyped envelope
  have whole {members : List (String × List Char)} {text : List Char}
      (object : IsObject members text) : IsDocument members text :=
    ⟨[], text, [], blank_nil, object, blank_nil, by simp⟩
  have reordered : Reordered valueMetricRecord.keys metric otherMetric := by
    let members :=
      [("name", "\"load\"".toList), ("value", "2".toList), ("unit", "\"ms\"".toList)]
    let others := [("unit", "\"ms\"".toList), ("deep", deep), ("value", "2".toList),
      ("name", "\"load\"".toList)]
    exact ⟨members, others, by decide +kernel, by decide +kernel, members, [("deep", deep)],
      List.forall₂_same.mpr fun _ _ => ⟨rfl, rfl⟩, by decide +kernel, by decide +kernel⟩
  have rearranged : Rearranged text other := by
    let kept := [("eventType", "\"ValueMetric\"".toList), ("timestamp", "1".toList)]
    let others := [("timestamp", "1".toList), ("total", deep),
      ("eventType", "\"ValueMetric\"".toList), ("Timestamp", "true".toList),
      ("valueMetric", otherMetric)]
    exact ⟨("valueMetric", metric) :: kept, others, whole (by decide +kernel),
      whole (by decide +kernel), ("valueMetric", otherMetric) :: kept,
      [("total", deep), ("Timestamp", "true".toList)],
      .cons ⟨rfl, .valueMetric reordered⟩ (List.forall₂_same.mpr fun _ _ => ⟨rfl, .same _ _⟩),
      by decide +kernel, by decide +kernel⟩
  have bareRearranged : Rearranged bare otherBare := by
    let members := [("eventType", "\"CounterEvent\"".toList), ("timestamp", "1".toList)]
    let others := [("timestamp", "1".toList), ("CounterEvent", deep),
      ("eventType", "\"CounterEvent\"".toList)]
    exact ⟨members, others, whole (by decide +kernel), whole (by decide +kernel), members,
      [("CounterEvent", deep)], List.forall₂_same.mpr fun _ _ => ⟨rfl, .same _ _⟩,
      by decide +kernel, by decide +kernel⟩
  have untypedRearranged : Rearranged untyped otherUntyped := by
    let others := [("EventType", "\"Error\"".toList), ("valueMetric", otherMetric)]
    exact ⟨[("valueMetric", metric)], others, whole (by decide +kernel), whole (by decide +kernel),
      [("valueMetric", otherMetric)], [("EventType", "\"Error\"".toList)],
      .cons ⟨rfl, .valueMetric reordered⟩ .nil, by decide +kernel, by decide +kernel⟩
  have decoded : decode text = .ok envelope := by decide +kernel
  have missing : decode bare = .error (.missingPayload .counterEvent) := by decide +kernel
  have incomplete : decode untyped = .error (.json (.missingField "eventType")) := by decide +kernel
  exact ⟨rearranged, decoded, (decode_rearranged rearranged).1 envelope decoded,
    bareRearranged, missing, (decode_rearranged bareRearranged).2.1 .counterEvent missing,
    untypedRearranged, incomplete, (decode_rearranged untypedRearranged).2.2 _ incomplete⟩

end TelemetryRelay.Envelope
