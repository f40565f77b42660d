import Std.Data.String.ToInt
import TelemetryRelay.Proofs.Payload

/-!
The line format can be read back. A payload is cut at its line feeds, a line at its spaces, and what
stands before and after the first space at its commas; where no name and no tag holds one of these
separators, this gives what was written.
-/

namespace TelemetryRelay

def pieces (separator : Char) (text : String) : List String :=
  (text.toList.splitOn separator).map String.ofList

theorem pieces_intercalate {separator : Char} {parts : List String} (filled : parts ≠ [])
    (plain : ∀ part ∈ parts, separator ∉ part.toList) :
    pieces separator (String.intercalate (String.singleton separator) parts) = parts := by
  have cut : ([separator].intercalate (parts.map String.toList)).splitOn separator =
      parts.map String.toList := by
    refine List.splitOn_intercalate separator ?_ (by simpa using filled)
    intro piece member
    obtain ⟨part, belongs, rfl⟩ := List.mem_map.mp member
    exact plain part belongs
  rw [pieces, String.toList_intercalate, String.toList_singleton, cut, List.map_map]
  simp [Function.comp_def]

theorem join_lines (lines : List String) :
    String.join (lines.map fun line => line ++ "\n") =
      String.intercalate "\n" (lines ++ [""]) := by
  induction lines with
  | nil => rfl
  | cons line rest ih =>
      rw [List.map_cons, String.join_cons, ih, List.cons_append,
        String.intercalate_cons_of_ne_nil (by simp)]

namespace Line

/-- What a line says. The name has its lead before it, and each value is as it is written. -/
structure Parts where
  name : String
  tags : List String
  values : List String
  nanoseconds : Int
deriving DecidableEq, Repr

def value? (field : String) : Option String :=
  match field.toList with
  | 'v' :: 'a' :: 'l' :: 'u' :: 'e' :: '=' :: value => some (String.ofList value)
  | _ => none

/-- Reads a line `name[,tag...] value=v[,value=v...] time`, its line feed taken off. -/
def read? (line : String) : Option Parts :=
  match pieces ' ' line with
  | [head, fields, time] =>
    match pieces ',' head with
    | name :: tags => do
      let values ← (pieces ',' fields).mapM value?
      let nanoseconds ← time.toInt?
      return ⟨name, tags, values, nanoseconds⟩
    | [] => none
  | _ => none

end Line

def Payload.read? (text : String) : Option (List Line.Parts) :=
  let lines := pieces '\n' text
  if lines.getLast? = some "" then lines.dropLast.mapM Line.read? else none

namespace Line

def said? (lead : String) (entry : SeriesId × Series) : Option Parts :=
  entry.2.points.head?.map fun first => {
    name := lead ++ entry.1.name
    tags := entry.2.tags.written
    values := entry.2.points.map fun point => Decimal.Layout.value.render point.value
    nanoseconds := max (-2 ^ 63) (min (2 ^ 63 - 1) (first.seconds.toInt * 1000000000))
  }

/-- A series whose line can be read back: it has a point, and neither the lead nor its name nor a
tag holds a separator. -/
structure Readable (lead : String) (entry : SeriesId × Series) : Prop where
  filled : entry.2.points ≠ []
  lead : ∀ char ∈ separators, char ∉ lead.toList
  plain : ∀ char ∈ separators, Lacks char entry.1.name entry.2.tags

instance (lead : String) (entry : SeriesId × Series) : Decidable (Readable lead entry) :=
  decidable_of_iff
    (entry.2.points ≠ [] ∧ (separators.all fun char => !lead.toList.contains char) ∧
      separators.all fun char => Lacks char entry.1.name entry.2.tags) <| by
    simp only [List.all_eq_true, Bool.not_eq_true', List.contains_eq_mem, decide_eq_false_iff_not,
      decide_eq_true_eq]
    exact ⟨fun ⟨filled, lead, plain⟩ => ⟨filled, lead, plain⟩,
      fun readable => ⟨readable.filled, readable.lead, readable.plain⟩⟩

def body (lead : String) (now : Int64) (entry : SeriesId × Series) : String :=
  String.intercalate " " [head lead entry.1.name entry.2.tags, fields entry.2.points,
    toString (nanoseconds (time entry.2.points now))]

theorem render_eq_body (lead : String) (now : Int64) (entry : SeriesId × Series) :
    render lead now entry.1.name entry.2 = body lead now entry ++ "\n" := by
  simp [render, body, String.intercalate_cons_of_ne_nil, String.append_assoc]

theorem value?_field (point : Point) :
    value? (field point) = some (Decimal.Layout.value.render point.value) := by
  have label : "value=".toList = ['v', 'a', 'l', 'u', 'e', '='] := by decide
  simp [field, value?, label]

theorem pieces_fields {points : List Point} (filled : points ≠ []) :
    pieces ',' (fields points) = points.map field := by
  refine pieces_intercalate (by simpa using filled) ?_
  intro text member
  obtain ⟨point, -, rfl⟩ := List.mem_map.mp member
  exact separator_not_mem_field (by decide) point

theorem mapM_value?_fields (points : List Point) :
    (points.map field).mapM value? =
      some (points.map fun point => Decimal.Layout.value.render point.value) := by
  induction points with
  | nil => rfl
  | cons point rest ih => simp [value?_field, ih]

variable {lead : String} {entry : SeriesId × Series}

namespace Readable

theorem not_mem_title (readable : Readable lead entry) {char : Char}
    (separator : char ∈ separators) :
    ∀ text ∈ (lead ++ entry.1.name) :: entry.2.tags.written, char ∉ text.toList := by
  obtain ⟨name, tags⟩ := readable.plain char separator
  refine List.forall_mem_cons.mpr ⟨?_, tags⟩
  rw [String.toList_append, List.mem_append, not_or]
  exact ⟨readable.lead char separator, name⟩

theorem pieces_head (readable : Readable lead entry) :
    pieces ',' (head lead entry.1.name entry.2.tags) =
      (lead ++ entry.1.name) :: entry.2.tags.written := by
  rw [head_eq]
  exact pieces_intercalate (by simp) (readable.not_mem_title (by decide))

theorem not_mem_part (readable : Readable lead entry) {char : Char}
    (separator : char ∈ separators) (other : char ∉ ",".toList) (time : Int) :
    ∀ part ∈ [head lead entry.1.name entry.2.tags, fields entry.2.points, toString time],
      char ∉ part.toList := by
  have title : char ∉ (head lead entry.1.name entry.2.tags).toList := by
    rw [head_eq]
    exact not_mem_intercalate other (readable.not_mem_title separator)
  have values := separator_not_mem_fields separator other entry.2.points
  have stamp := separator_not_mem_time separator time
  simp only [List.forall_mem_cons]
  exact ⟨title, values, stamp, by simp⟩

theorem read?_body (readable : Readable lead entry) (now : Int64) :
    read? (body lead now entry) = said? lead entry := by
  obtain ⟨first, rest, points⟩ := List.exists_cons_of_ne_nil readable.filled
  have parts : pieces ' ' (body lead now entry) =
      [head lead entry.1.name entry.2.tags, fields entry.2.points,
        toString (nanoseconds first.seconds)] := by
    simp only [body, points, time]
    rw [← points]
    exact pieces_intercalate (by simp) (readable.not_mem_part (by decide) (by decide) _)
  have values := pieces_fields readable.filled
  simp only [read?, parts, readable.pieces_head, values, mapM_value?_fields, Int.toString_eq_repr,
    Int.toInt?_repr]
  simp [said?, points, nanoseconds]

end Readable

theorem mapM_read?_body {entries : List (SeriesId × Series)}
    (readable : ∀ entry ∈ entries, Readable lead entry) (now : Int64) :
    ∃ parts, (entries.map (body lead now)).mapM read? = some parts ∧
      entries.map (said? lead) = parts.map some := by
  induction entries with
  | nil => exact ⟨[], rfl, rfl⟩
  | cons entry rest ih =>
      obtain ⟨here, later⟩ := List.forall_mem_cons.mp readable
      obtain ⟨parts, read, said⟩ := ih later
      obtain ⟨first, others, points⟩ := List.exists_cons_of_ne_nil here.filled
      obtain ⟨part, spoken⟩ : ∃ part, said? lead entry = some part := by
        simp [said?, points]
      refine ⟨part :: parts, ?_, ?_⟩
      · simp [here.read?_body now, spoken, read]
      · rw [List.map_cons, List.map_cons, spoken, said]

theorem pieces_lines {entries : List (SeriesId × Series)}
    (readable : ∀ entry ∈ entries, Readable lead entry) (now : Int64) :
    pieces '\n' (String.join (entries.map fun entry => render lead now entry.1.name entry.2)) =
      entries.map (body lead now) ++ [""] := by
  have lines : entries.map (fun entry => render lead now entry.1.name entry.2) =
      (entries.map (body lead now)).map fun line => line ++ "\n" := by
    simp [render_eq_body]
  rw [lines, join_lines]
  refine pieces_intercalate (by simp) ?_
  intro line member
  rcases List.mem_append.mp member with written | last
  · obtain ⟨entry, belongs, rfl⟩ := List.mem_map.mp written
    exact not_mem_intercalate (by decide)
      ((readable entry belongs).not_mem_part (by decide) (by decide) _)
  · rw [List.mem_singleton.mp last]
    simp

end Line

theorem Payload.read?_lines {lead : String} {entries : List (SeriesId × Series)}
    (readable : ∀ entry ∈ entries, Line.Readable lead entry) (now : Int64) :
    ∃ parts,
      Payload.read?
          (String.join (entries.map fun entry => Line.render lead now entry.1.name entry.2)) =
        some parts ∧
      entries.map (Line.said? lead) = parts.map some := by
  obtain ⟨parts, read, said⟩ := Line.mapM_read?_body readable now
  refine ⟨parts, ?_, said⟩
  simp [Payload.read?, Line.pieces_lines readable now, read]

namespace Batch

/-- A payload gives back what was written, for every series in the order of the keys: its name with
the lead before it, its tags, its values as they are written and the time of its first point. So
batches of one payload agree on all of these. Each series has a point, and no name, no tag and no
lead holds a line feed, a space or a comma; the values may be any. -/
theorem payload_read_back (batch : Batch) (lead : String) (now : Int64)
    (readable : ∀ entry ∈ batch.toList, Line.Readable lead entry) :
    let payload := batch.payload lead now
    (batch.toList.Pairwise fun first second => SeriesId.byteOrder first.1 second.1 = .lt) ∧
      (∃ parts, Payload.read? payload.text = some parts ∧
        batch.toList.map (Line.said? lead) = parts.map some) ∧
      ∀ (other : Batch) (otherLead : String) (later : Int64),
        (∀ entry ∈ other.toList, Line.Readable otherLead entry) →
        (other.payload otherLead later).text = payload.text →
        other.toList.map (Line.said? otherLead) = batch.toList.map (Line.said? lead) := by
  intro payload
  obtain ⟨parts, read, said⟩ := Payload.read?_lines readable now
  refine ⟨batch.ordered_toList, ⟨parts, read, said⟩, ?_⟩
  intro other otherLead later otherReadable same
  obtain ⟨others, otherRead, otherSaid⟩ := Payload.read?_lines otherReadable later
  have texts : Payload.read? payload.text = some others := same ▸ otherRead
  have equal : others = parts := Option.some.inj (texts.symm.trans read)
  rw [otherSaid, said, equal]

theorem payload_read_back_saturated :
    let gauge : SeriesId × Series :=
      (.of .value "o.m" ⟨["job=a", "ip="]⟩,
        ⟨⟨["job=a", "ip="]⟩, [⟨-3, (Binary64.ofNat 5).negate⟩, ⟨1, .ofNat 7⟩]⟩)
    let far : SeriesId × Series :=
      (.of .counter "o.n" ⟨[]⟩, ⟨⟨[]⟩, [⟨Int64.maxValue, .ofNat 1⟩]⟩)
    let batch : Batch := Std.ExtTreeMap.ofList [far, gauge] compare
    let other : Batch := Std.ExtTreeMap.ofList
      [(.of .counter "cf.o.n" ⟨[]⟩, far.2), (.of .internal "cf.o.m" gauge.2.tags, gauge.2)] compare
    (∀ entry ∈ batch.toList, Line.Readable "cf." entry) ∧
      (∀ entry ∈ other.toList, Line.Readable "" entry) ∧
      Payload.read? (batch.payload "cf." 0).text =
        some [⟨"cf.o.m", ["job=a", "ip="], ["-5", "7"], -3000000000⟩,
          ⟨"cf.o.n", [], ["1"], 9223372036854775807⟩] ∧
      other.toList.map (Line.said? "") = batch.toList.map (Line.said? "cf.") := by
  intro gauge far batch other
  have readable : ∀ entry ∈ batch.toList, Line.Readable "cf." entry := by decide +kernel
  have otherReadable : ∀ entry ∈ other.toList, Line.Readable "" entry := by decide +kernel
  obtain ⟨-, ⟨parts, read, said⟩, agree⟩ := payload_read_back batch "cf." 0 readable
  have spoken : parts.map some =
      [⟨"cf.o.m", ["job=a", "ip="], ["-5", "7"], -3000000000⟩,
        ⟨"cf.o.n", [], ["1"], 9223372036854775807⟩].map some := by
    rw [← said]
    decide +kernel
  have written := (List.map_inj_right fun _ _ => Option.some.inj).mp spoken
  have same := agree other "" 5 otherReadable (by decide +kernel)
  exact ⟨readable, otherReadable, written ▸ read, same⟩

end Batch

end TelemetryRelay
