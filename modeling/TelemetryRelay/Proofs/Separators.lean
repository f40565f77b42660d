import TelemetryRelay.Datagram
import TelemetryRelay.Proofs.Numeral

/-!
The separators of the line format. Names and tags are written as they are, so a line feed in one of
them ends a line and a comma in one of them begins a tag; without these there is one line for each
series, and what stands before its values tells its name and its tags.
-/

namespace TelemetryRelay

theorem mem_intercalate_iff {α : Type} {separator : List α} {parts : List (List α)} {item : α}
    (other : item ∉ separator) :
    item ∈ separator.intercalate parts ↔ ∃ part ∈ parts, item ∈ part := by
  induction parts with
  | nil => simp
  | cons first rest ih =>
      cases rest with
      | nil => simp
      | cons second rest =>
          simp only [List.intercalate_cons_cons, List.mem_append, other, or_false, ih]
          simp

theorem not_mem_intercalate {separator : String} {parts : List String} {char : Char}
    (other : char ∉ separator.toList) (plain : ∀ part ∈ parts, char ∉ part.toList) :
    char ∉ (String.intercalate separator parts).toList := by
  rw [String.toList_intercalate, mem_intercalate_iff other]
  rintro ⟨piece, member, inside⟩
  obtain ⟨part, belongs, rfl⟩ := List.mem_map.mp member
  exact plain part belongs inside

namespace Line

def Lacks (char : Char) (name : String) (tags : Tags) : Prop :=
  char ∉ name.toList ∧ ∀ tag ∈ tags.written, char ∉ tag.toList

instance (char : Char) (name : String) (tags : Tags) : Decidable (Lacks char name tags) :=
  inferInstanceAs (Decidable (_ ∧ _))

theorem toList_head (lead name : String) (tags : Tags) :
    (head lead name tags).toList =
      lead.toList ++ [','].intercalate ((name :: tags.written).map String.toList) := by
  cases written : tags.written with
  | nil => simp [head, Tags.isEmpty, written]
  | cons tag rest => simp [head, Tags.isEmpty, Tags.text, written]

theorem head_eq (lead name : String) (tags : Tags) :
    head lead name tags = String.intercalate "," ((lead ++ name) :: tags.written) := by
  cases written : tags.written with
  | nil => simp [head, Tags.isEmpty, written]
  | cons tag rest => simp [head, Tags.isEmpty, Tags.text, written, String.append_assoc]

theorem lineFeed_not_mem_head_iff {lead : String} (unbroken : '\n' ∉ lead.toList) (name : String)
    (tags : Tags) : '\n' ∉ (head lead name tags).toList ↔ Lacks '\n' name tags := by
  rw [toList_head, List.mem_append, mem_intercalate_iff (by decide)]
  simp [unbroken, Lacks]

/-- Where no name and no tag holds a comma, names and tags can be told from what is written. -/
theorem head_inj {lead name other : String} {tags otherTags : Tags} (plain : Lacks ',' name tags)
    (otherPlain : Lacks ',' other otherTags)
    (same : head lead name tags = head lead other otherTags) :
    name = other ∧ tags = otherTags := by
  have split (name : String) (tags : Tags) (plain : Lacks ',' name tags) :
      ([','].intercalate ((name :: tags.written).map String.toList)).splitOn ',' =
        (name :: tags.written).map String.toList := by
    refine List.splitOn_intercalate ',' ?_ (by simp)
    intro piece member
    obtain ⟨text, belongs, rfl⟩ := List.mem_map.mp member
    rcases List.mem_cons.mp belongs with rfl | tag
    · exact plain.1
    · exact plain.2 text tag
  have texts := congrArg String.toList same
  rw [toList_head, toList_head, List.append_cancel_left_eq] at texts
  have pieces := congrArg (List.splitOn ',') texts
  rw [split name tags plain, split other otherTags otherPlain,
    List.map_inj_right fun _ _ => String.toList_inj.mp, List.cons.injEq] at pieces
  cases tags
  cases otherTags
  exact ⟨pieces.1, congrArg Tags.mk pieces.2⟩

def separators : List Char := ['\n', ' ', ',']

theorem separator_not_mem_field {char : Char} (separator : char ∈ separators) (point : Point) :
    char ∉ (field point).toList := by
  have foreign : separators.all fun other =>
      !isNumeral other && !other.isAlpha && !"value=".toList.contains other := by
    decide
  have plain := List.all_eq_true.mp foreign char separator
  simp only [Bool.and_eq_true, Bool.not_eq_true', List.contains_eq_mem, decide_eq_false_iff_not]
    at plain
  obtain ⟨⟨numeral, alpha⟩, label⟩ := plain
  intro member
  rcases List.mem_append.mp (String.toList_append ▸ member) with before | value
  · exact label before
  · have written := Decimal.isNumeral_or_isAlpha_of_mem_value value
    simp [numeral, alpha] at written

theorem separator_not_mem_fields {char : Char} (separator : char ∈ separators)
    (other : char ∉ ",".toList) (points : List Point) : char ∉ (fields points).toList := by
  refine not_mem_intercalate other ?_
  intro text member
  obtain ⟨point, -, rfl⟩ := List.mem_map.mp member
  exact separator_not_mem_field separator point

theorem separator_not_mem_time {char : Char} (separator : char ∈ separators) (time : Int) :
    char ∉ (toString time).toList := by
  have foreign : separators.all fun other => !isNumeral other := by decide
  have plain := List.all_eq_true.mp foreign char separator
  intro member
  rw [isNumeral_of_mem_int member] at plain
  cases plain

theorem count_lineFeed_render (lead : String) (now : Int64) (name : String) (series : Series) :
    (render lead now name series).toList.count '\n' =
      (head lead name series.tags).toList.count '\n' + 1 := by
  have separator : '\n' ∈ separators := by decide
  have fields := List.count_eq_zero.mpr
    (separator_not_mem_fields separator (by decide) series.points)
  have time := List.count_eq_zero.mpr
    (separator_not_mem_time separator (nanoseconds (time series.points now)))
  simp only [render, String.toList_append, List.count_append, fields, time]
  rfl

theorem count_lineFeed_lines {lead : String} (unbroken : '\n' ∉ lead.toList) (now : Int64)
    (entries : List (SeriesId × Series)) :
    let text := String.join (entries.map fun entry => render lead now entry.1.name entry.2)
    entries.length ≤ text.toList.count '\n' ∧
      (text.toList.count '\n' = entries.length ↔
        ∀ entry ∈ entries, Lacks '\n' entry.1.name entry.2.tags) := by
  induction entries with
  | nil => simp
  | cons entry rest ih =>
      obtain ⟨atLeast, exactly⟩ := ih
      have whole := lineFeed_not_mem_head_iff unbroken entry.1.name entry.2.tags
      rw [← List.count_eq_zero] at whole
      simp only [List.map_cons, String.join_cons, String.toList_append, List.count_append,
        count_lineFeed_render, List.length_cons, List.forall_mem_cons, ← whole, ← exactly]
      omega

end Line

namespace Batch

/-- With a lead that holds no line feed a payload has at least a line for each series it counts. It
has no other line exactly if no name and no tag holds a line feed; and what stands before the values
of two series is the same only for the same name and the same tags, if these hold no comma. -/
theorem one_line_each_iff (batch : Batch) (lead : String) (now : Int64)
    (unbroken : '\n' ∉ lead.toList) :
    let payload := batch.payload lead now
    payload.count ≤ payload.text.toList.count '\n' ∧
      (payload.text.toList.count '\n' = payload.count ↔
        ∀ entry ∈ batch.toList, Line.Lacks '\n' entry.1.name entry.2.tags) ∧
      ∀ first ∈ batch.toList, ∀ second ∈ batch.toList,
        Line.Lacks ',' first.1.name first.2.tags → Line.Lacks ',' second.1.name second.2.tags →
        Line.head lead first.1.name first.2.tags = Line.head lead second.1.name second.2.tags →
        first.1.name = second.1.name ∧ first.2.tags = second.2.tags := by
  intro payload
  have count : payload.count = batch.toList.length := batch.count_payload lead now
  obtain ⟨atLeast, exactly⟩ := Line.count_lineFeed_lines unbroken now batch.toList
  refine ⟨count ▸ atLeast, count ▸ exactly, ?_⟩
  intro first _ second _ plain otherPlain same
  exact Line.head_inj plain otherPlain same

theorem one_line_each_iff_plain :
    let tagged : SeriesId × Series :=
      (.of .value "o.m" ⟨["a=b"]⟩, ⟨⟨["a=b"]⟩, [⟨0, .ofNat 1⟩]⟩)
    let bare : SeriesId × Series := (.of .value "o.m.a=b" ⟨[]⟩, ⟨⟨[]⟩, [⟨0, .ofNat 2⟩]⟩)
    let batch : Batch := Std.ExtTreeMap.ofList [bare, tagged] compare
    '\n' ∉ "cf.".toList ∧ tagged ∈ batch.toList ∧ bare ∈ batch.toList ∧
      (batch.payload "cf." 0).text.toList.count '\n' = 2 ∧
      Line.head "cf." tagged.1.name tagged.2.tags ≠ Line.head "cf." bare.1.name bare.2.tags := by
  intro tagged bare batch
  have entries : batch.toList = [tagged, bare] := by decide +kernel
  have unbroken : ∀ entry ∈ batch.toList, Line.Lacks '\n' entry.1.name entry.2.tags := by
    rw [entries]
    unfold Line.Lacks
    decide
  have plain : ∀ entry ∈ batch.toList, Line.Lacks ',' entry.1.name entry.2.tags := by
    rw [entries]
    unfold Line.Lacks
    decide
  have first : tagged ∈ batch.toList := by simp [entries]
  have second : bare ∈ batch.toList := by simp [entries]
  obtain ⟨-, exactly, apart⟩ := one_line_each_iff batch "cf." 0 (by decide)
  have lines := exactly.mpr unbroken
  rw [count_payload, entries] at lines
  refine ⟨by decide, first, second, lines, ?_⟩
  intro same
  have names := (apart tagged first bare second (plain tagged first) (plain bare second) same).1
  exact absurd names (by decide)

end Batch

namespace Collector

/-- The first of these envelopes writes a line of its own choice beside that of its series, and the
other two are different series whose lines begin alike. -/
theorem names_and_tags_forge_lines :
    let lines :=
      [
        "\x7b\"origin\":\"o\",\"eventType\":\"ValueMetric\",\"tags\":\x7b\"a\":\"x value=1 0" ++
          "\\nother.series\"\x7d,\"valueMetric\":\x7b\"name\":\"n\",\"value\":1\x7d\x7d",
        "\x7b\"origin\":\"o\",\"eventType\":\"ValueMetric\"," ++
          "\"valueMetric\":\x7b\"name\":\"m,a=b\",\"value\":1\x7d\x7d",
        "\x7b\"origin\":\"o\",\"eventType\":\"ValueMetric\",\"tags\":\x7b\"a\":\"b\"\x7d," ++
          "\"valueMetric\":\x7b\"name\":\"m\",\"value\":2\x7d\x7d"
      ]
    let envelopes := Datagram.envelopes (lines.map String.toList)
    let batch := (envelopes.foldl add (fresh "cf" "10.0.0.1")).batch
    (batch.toList.map fun entry => (entry.1.name, entry.2.tags.written)) =
        [("o.m", ["a=b"]), ("o.m,a=b", []), ("o.n", ["a=x value=1 0\nother.series"])] ∧
      batch.payload "" 0 =
        ⟨"o.m,a=b value=2 0\n" ++ "o.m,a=b value=1 0\n" ++
          "o.n,a=x value=1 0\nother.series value=1 0\n", 3⟩ ∧
      (batch.payload "" 0).text.toList.count '\n' = 4 ∧
      Line.head "" "o.m" ⟨["a=b"]⟩ = Line.head "" "o.m,a=b" ⟨[]⟩ := by
  decide +kernel

end Collector

end TelemetryRelay
