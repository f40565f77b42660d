import Mathlib.Data.Set.Basic
import TelemetryRelay.Proofs.Members
import TelemetryRelay.Proofs.Overriding
import TelemetryRelay.Proofs.Scalars
import TelemetryRelay.Proofs.Utf8

/-!
Settings from a file and from variables. Whichever settings are spelled in variables and whichever
in the file, the outcome is that of the settings meant; what the file says of a setting that a
variable overrides has no bearing on it.
-/

namespace TelemetryRelay

namespace SettingKind

def reader : (kind : SettingKind) → Json.Reader kind.Value
  | .text => Json.string
  | .flag => Json.boolean
  | .count => Json.uint64
  | .port => Json.uint16

/-- How a value is written in the file: a text as a string with or without escapes, a flag as one of
two words, and a number in digits. -/
def Writes : (kind : SettingKind) → kind.Value → List Char → Prop
  | .text, value, item => ∃ body, Json.Writes body value.toList ∧ item = '"' :: (body ++ ['"'])
  | .flag, value, item => item = (if value then "true" else "false").toList
  | .count, value, item => Json.WholePart item ∧ Nat.ofDigitChars 10 item 0 = value.toNat
  | .port, value, item => Json.WholePart item ∧ Nat.ofDigitChars 10 item 0 = value.toNat

theorem Writes.full {kind : SettingKind} {value : kind.Value} {item : List Char}
    (writes : kind.Writes value item) : Json.skipBlank item = item := by
  cases kind with
  | text =>
      obtain ⟨body, -, rfl⟩ := writes
      rfl
  | flag =>
      subst writes
      cases value <;> rfl
  | count | port => exact writes.1.skipBlank_eq

theorem writes_iff {kind : SettingKind} {value : kind.Value} {item : List Char} :
    kind.Writes value item ↔
      Json.skipBlank item = item ∧ kind.reader item = .ok (value, []) := by
  have read (full : Json.skipBlank item = item) :
      kind.reader item = .ok (value, []) ↔ kind.Writes value item := by
    cases kind with
    | text => exact Json.string_eq_ok_iff full
    | flag => exact Json.boolean_eq_ok_iff full
    | count => exact Json.uint64_eq_ok_iff full
    | port => exact Json.uint16_eq_ok_iff full
  constructor
  · intro writes
    exact ⟨writes.full, (read writes.full).mpr writes⟩
  · rintro ⟨full, accepted⟩
    exact (read full).mp accepted

instance (kind : SettingKind) (value : kind.Value) (item : List Char) :
    Decidable (kind.Writes value item) :=
  decidable_of_iff _ writes_iff.symm

theorem Writes.read {kind : SettingKind} {value : kind.Value} {item : List Char}
    (writes : kind.Writes value item) : kind.reader item = .ok (value, []) :=
  (writes_iff.mp writes).2

theorem Writes.unique {kind : SettingKind} {value other : kind.Value} {item : List Char}
    (writes : kind.Writes value item) (others : kind.Writes other item) : value = other := by
  cases writes.read.symm.trans others.read
  rfl

theorem whole_reader (kind : SettingKind) : Json.Whole kind.reader := by
  cases kind with
  | text => exact Json.whole_string
  | flag => exact Json.whole_boolean
  | count => exact Json.whole_uint64
  | port => exact Json.whole_uint16

theorem local_reader (kind : SettingKind) : Json.Local kind.reader := by
  cases kind with
  | text => exact Json.local_string
  | flag => exact Json.local_boolean
  | count => exact Json.local_uint64
  | port => exact Json.local_uint16

theorem skipsBlank_reader (kind : SettingKind) : Json.SkipsBlank kind.reader := by
  cases kind with
  | text => exact Json.skipsBlank_string
  | flag => exact Json.skipsBlank_boolean
  | count => exact Json.skipsBlank_uint64
  | port => exact Json.skipsBlank_uint16

end SettingKind

namespace Setting

def field (setting : Setting) : Json.Field Settings :=
  .of setting.key .defaulted setting.kind.reader setting.put

theorem fields_eq : Settings.record.fields = all.map field := rfl

theorem find?_field (setting : Setting) :
    (Settings.record.fields.find? fun field => field.key == setting.key) = some setting.field := by
  cases setting <;> rfl

theorem key_inj {setting other : Setting} (same : setting.key = other.key) : setting = other := by
  cases setting <;> cases other <;> first | rfl | simp [key] at same

theorem put_comm {setting other : Setting} (differ : setting ≠ other) (value : setting.kind.Value)
    (otherValue : other.kind.Value) (settings : Settings) :
    setting.put value (other.put otherValue settings) =
      other.put otherValue (setting.put value settings) := by
  cases setting <;> cases other <;> first | rfl | exact (differ rfl).elim

theorem mem_fields {field : Json.Field Settings} (member : field ∈ Settings.record.fields) :
    ∃ setting : Setting, field = setting.field := by
  rw [fields_eq] at member
  obtain ⟨setting, -, same⟩ := List.mem_map.mp member
  exact ⟨setting, same.symm⟩

theorem read_field {setting : Setting} {value : setting.kind.Value} {item : List Char}
    (writes : setting.kind.Writes value item) :
    setting.field.read item = .ok (setting.put value, []) :=
  Json.map_eq_ok.mpr ⟨value, writes.read, rfl⟩

end Setting

namespace Settings

open Json

theorem regular_record : record.Regular where
  whole := by
    intro field member
    obtain ⟨setting, rfl⟩ := Setting.mem_fields member
    exact whole_field setting.kind.whole_reader _ _ _
  confined := by
    intro field member
    obtain ⟨setting, rfl⟩ := Setting.mem_fields member
    exact local_field setting.kind.local_reader _ _ _
  skips := by
    intro field member
    obtain ⟨setting, rfl⟩ := Setting.mem_fields member
    exact skipsBlank_field setting.kind.skipsBlank_reader _ _ _
  commute := by
    rw [Setting.fields_eq, List.pairwise_map]
    exact Setting.nodup_all.imp fun differ => Field.commutes_of (Setting.put_comm differ)

theorem take_of_writes {setting : Setting} {value : setting.kind.Value} {item : List Char}
    (writes : setting.kind.Writes value item) {progress : Finset String × Settings}
    (fresh : setting.key ∉ progress.1) :
    record.take progress (setting.key, item) =
      some (insert setting.key progress.1, setting.put value progress.2) := by
  simp only [Record.take, setting.find?_field, if_neg fresh, Setting.read_field writes]
  rfl

/-- Members of which each setting has one at most, with a value that the setting can have. -/
structure WellTyped (members : List (String × List Char)) : Prop where
  once : ∀ setting : Setting, (members.map Prod.fst).count setting.key ≤ 1
  typed : ∀ (setting : Setting) (item : List Char), (setting.key, item) ∈ members →
    ∃ value, setting.kind.Writes value item

theorem WellTyped.tail {member : String × List Char} {members : List (String × List Char)}
    (wellTyped : WellTyped (member :: members)) : WellTyped members where
  once setting := List.count_le_count_cons.trans (wellTyped.once setting)
  typed setting item found := wellTyped.typed setting item (List.mem_cons_of_mem _ found)

structure Follows (members : List (String × List Char)) (before after : Settings) : Prop where
  written : ∀ (setting : Setting) (item : List Char) (value : setting.kind.Value),
    (setting.key, item) ∈ members → setting.kind.Writes value item → setting.get after = value
  kept : ∀ setting : Setting, setting.key ∉ members.map Prod.fst →
    setting.get after = setting.get before

theorem Follows.cons {key : String} {item : List Char} {members : List (String × List Char)}
    {first second third : Settings} (here : Follows [(key, item)] first second)
    (later : Follows members second third)
    (alone : ∀ setting : Setting, setting.key = key → setting.key ∉ members.map Prod.fst) :
    Follows ((key, item) :: members) first third where
  written := by
    intro setting found value member writes
    rcases List.mem_cons.mp member with same | after
    · have named : setting.key = key := congrArg Prod.fst same
      rw [later.kept setting (alone setting named)]
      exact here.written setting found value (List.mem_singleton.mpr same) writes
    · exact later.written setting found value after writes
  kept := by
    intro setting absent
    rw [List.map_cons, List.mem_cons, not_or] at absent
    rw [later.kept setting absent.2]
    exact here.kept setting (by simpa using absent.1)

theorem follows_put {setting : Setting} {value : setting.kind.Value} {item : List Char}
    (writes : setting.kind.Writes value item) (settings : Settings) :
    Follows [(setting.key, item)] settings (setting.put value settings) where
  written := by
    intro other found otherValue member others
    obtain ⟨same, rfl⟩ := Prod.mk.inj (List.mem_singleton.mp member)
    obtain rfl := Setting.key_inj same
    rw [Setting.get_put, writes.unique others]
  kept := by
    intro other absent
    exact Setting.get_put_of_ne (by rintro rfl; simp at absent) value settings

theorem follows_foreign {key : String} (foreign : ∀ setting : Setting, setting.key ≠ key)
    (item : List Char) (settings : Settings) : Follows [(key, item)] settings settings where
  written := by
    intro setting found value member
    exact absurd (congrArg Prod.fst (List.mem_singleton.mp member)) (foreign setting)
  kept setting absent := rfl

theorem exists_take {key : String} {item : List Char} (derives : Derives .value item)
    (typed : ∀ setting : Setting, setting.key = key → ∃ value, setting.kind.Writes value item)
    {progress : Finset String × Settings}
    (fresh : ∀ setting : Setting, setting.key = key → key ∉ progress.1) :
    ∃ next, record.take progress (key, item) = some next ∧ next.1 ⊆ insert key progress.1 ∧
      Follows [(key, item)] progress.2 next.2 := by
  by_cases named : ∃ setting : Setting, setting.key = key
  · obtain ⟨setting, rfl⟩ := named
    obtain ⟨value, writes⟩ := typed setting rfl
    exact ⟨_, take_of_writes writes (fresh setting rfl), Finset.Subset.refl _,
      follows_put writes progress.2⟩
  · have other (setting : Setting) : setting.key ≠ key := fun same => named ⟨setting, same⟩
    have foreign : key ∉ record.keys := by
      intro member
      obtain ⟨field, belongs, same⟩ := List.mem_map.mp member
      obtain ⟨setting, rfl⟩ := Setting.mem_fields belongs
      exact other setting same
    exact ⟨progress, Record.take_of_foreign foreign derives, Finset.subset_insert _ _,
      follows_foreign other item progress.2⟩

theorem exists_foldlM_take {members : List (String × List Char)}
    (derives : ∀ member ∈ members, Derives .value member.2) (wellTyped : WellTyped members)
    {progress : Finset String × Settings}
    (fresh : ∀ setting : Setting, setting.key ∈ members.map Prod.fst →
      setting.key ∉ progress.1) :
    ∃ final, members.foldlM record.take progress = some final ∧
      Follows members progress.2 final.2 := by
  induction members generalizing progress with
  | nil => exact ⟨progress, rfl, ⟨fun _ _ _ => nofun, fun _ _ => rfl⟩⟩
  | cons member members ih =>
      obtain ⟨key, item⟩ := member
      obtain ⟨derivesItem, derivesOthers⟩ := List.forall_mem_cons.mp derives
      -- No later member is of the same setting, so what this one gives it stays.
      have alone (setting : Setting) (same : setting.key = key) :
          setting.key ∉ members.map Prod.fst := by
        have once := wellTyped.once setting
        rw [List.map_cons, List.count_cons, if_pos (beq_iff_eq.mpr same.symm)] at once
        exact List.count_eq_zero.mp (by omega)
      have typedHere (setting : Setting) (same : setting.key = key) :
          ∃ value, setting.kind.Writes value item :=
        wellTyped.typed setting item (by simp [same])
      have freshHere (setting : Setting) (same : setting.key = key) : key ∉ progress.1 :=
        same ▸ fresh setting (by simp [same])
      obtain ⟨next, taken, keys, here⟩ := exists_take derivesItem typedHere freshHere
      have freshNext (setting : Setting) (member : setting.key ∈ members.map Prod.fst) :
          setting.key ∉ next.1 := by
        intro seen
        rcases Finset.mem_insert.mp (keys seen) with same | before
        · exact alone setting same member
        · exact fresh setting (List.mem_cons_of_mem _ member) before
      obtain ⟨final, run, later⟩ := ih derivesOthers wellTyped.tail freshNext
      exact ⟨final, by rw [List.foldlM_cons, taken]; exact run, here.cons later alone⟩

/-- A settings file that says of each setting what it is, or leaves out what is as by default. What
it says of an overridden one is any value that the setting can have, or nothing. -/
structure Describes (settings : Settings) (overridden : Set Setting)
    (members : List (String × List Char)) : Prop where
  once : ∀ setting : Setting, (members.map Prod.fst).count setting.key ≤ 1
  typed : ∀ setting ∈ overridden, ∀ item, (setting.key, item) ∈ members →
    ∃ value, setting.kind.Writes value item
  written : ∀ setting ∉ overridden, ∀ item, (setting.key, item) ∈ members →
    setting.kind.Writes (setting.get settings) item
  omitted : ∀ setting ∉ overridden, setting.key ∉ members.map Prod.fst →
    setting.get settings = setting.get default

theorem Describes.wellTyped {settings : Settings} {overridden : Set Setting}
    {members : List (String × List Char)} (describes : Describes settings overridden members) :
    WellTyped members where
  once := describes.once
  typed := by
    intro setting item member
    by_cases replaced : setting ∈ overridden
    · exact describes.typed setting replaced item member
    · exact ⟨_, describes.written setting replaced item member⟩

structure SpelledOut (settings : Settings) (overridden : Set Setting)
    (environment : Environment) : Prop where
  spelled : ∀ setting ∈ overridden, ∃ spelling,
    environment setting.variableName = some spelling ∧
      setting.kind.Spells (setting.get settings) spelling
  unset : ∀ setting ∉ overridden, environment setting.variableName = none

theorem SpelledOut.override_eq {settings base : Settings} {overridden : Set Setting}
    {environment : Environment} (spelledOut : SpelledOut settings overridden environment)
    (same : ∀ setting ∉ overridden, setting.get base = setting.get settings) :
    base.override environment = settings := by
  apply Setting.ext_get
  intro setting
  rw [setting.get_override]
  by_cases replaced : setting ∈ overridden
  · have spells := Setting.value?_eq_some_iff.mpr (spelledOut.spelled setting replaced)
    rw [spells, Option.getD_some]
  · rw [Setting.value?, spelledOut.unset setting replaced]
    exact same setting replaced

theorem exists_ofFile {members : List (String × List Char)} {text : String}
    (document : IsDocument members text.toList) (wellTyped : WellTyped members) :
    ∃ read, ofFile (.contents (Text.Utf8.encode text)) = .ok read ∧
      Follows members default read := by
  obtain ⟨tail, blank, read⟩ := Record.toOption_read_document regular_record document
  obtain ⟨-, -, -, -, ⟨inner, lists, -⟩, -, -⟩ := document
  have fresh (setting : Setting) (_ : setting.key ∈ members.map Prod.fst) :
      setting.key ∉ ((∅, default) : Finset String × Settings).1 := Finset.notMem_empty _
  obtain ⟨final, run, follows⟩ := exists_foldlM_take lists.value wellTyped fresh
  have complete : ∀ field ∈ record.fields, field.absence = .required → field.key ∈ final.1 := by
    intro field member required
    obtain ⟨setting, rfl⟩ := Setting.mem_fields member
    cases required
  have made : record.ofMembers? members = some final.2 := by
    rw [Record.ofMembers?]
    exact Option.bind_eq_some_iff.mpr ⟨final, run, if_pos complete⟩
  refine ⟨final.2, ?_, follows⟩
  simp only [ofFile, Text.Utf8.decode_encode, decode]
  rw [made] at read
  cases accepted : record.read text.toList with
  | error fault =>
      rw [accepted] at read
      cases read
  | ok result =>
      rw [accepted] at read
      cases read
      change (finish tail >>= fun _ => .ok final.2).mapError Fault.parse = _
      rw [finish_eq_ok_iff.mpr blank]
      rfl

/-- A file and variables are two spellings of the same settings. However the settings are divided
among them, and whatever the file says of those that variables override, the outcome is that of
validating the settings meant. Variables alone will do if they spell every setting that is not as by
default. -/
theorem effective_described {settings : Settings} {overridden : Set Setting}
    {environment : Environment} (spelledOut : SpelledOut settings overridden environment) :
    let outcome : Except Fault Settings :=
      match settings.defect? with
      | none => .ok settings
      | some defect => .error (.invalid defect)
    (∀ (members : List (String × List Char)) (text : String),
      IsDocument members text.toList → Describes settings overridden members →
        effective (.contents (Text.Utf8.encode text)) environment = outcome) ∧
    ((∀ setting ∉ overridden, setting.get settings = setting.get default) →
      ofEnvironment environment = outcome) := by
  intro outcome
  have validated : settings.validate = outcome := by
    unfold validate
    cases found : settings.defect? <;> simp only [outcome, found]
  constructor
  · intro members text document describes
    obtain ⟨read, accepted, follows⟩ := exists_ofFile document describes.wellTyped
    have same (setting : Setting) (kept : setting ∉ overridden) :
        setting.get read = setting.get settings := by
      by_cases present : setting.key ∈ members.map Prod.fst
      · obtain ⟨⟨key, item⟩, member, rfl⟩ := List.mem_map.mp present
        exact follows.written setting item _ member (describes.written setting kept item member)
      · rw [follows.kept setting present, describes.omitted setting kept present]
    rw [effective, accepted, ← validated, ← spelledOut.override_eq same]
    rfl
  · intro same
    rw [ofEnvironment, ← validated,
      spelledOut.override_eq fun setting kept => (same setting kept).symm]

theorem effective_described_overridden :
    let settings : Settings :=
      { default with url := "http://db", database := "m", flushSeconds := 30 }
    let text := "\x7b\"FlushDurationSeconds\":0, \"Comment\":[1,\x7b\x7d],\"InfluxDbUrl\" :\"\"," ++
      "\"InfluxDbDatabase\":\"m\"\x7d"
    let environment : Environment := fun name => List.lookup name
      [("NOZZLE_INFLUXDBURL", "http://db"), ("NOZZLE_FLUSHDURATIONSECONDS", " 30\n")]
    let wider : Environment := fun name => List.lookup name
      [("NOZZLE_INFLUXDBURL", "http://db"), ("NOZZLE_FLUSHDURATIONSECONDS", "+030"),
        ("NOZZLE_INFLUXDBDATABASE", "m")]
    effective (.contents (Text.Utf8.encode text)) environment = .ok settings ∧
      ofEnvironment wider = .ok settings := by
  intro settings text environment wider
  let members := [("FlushDurationSeconds", "0".toList), ("Comment", "[1,\x7b\x7d]".toList),
    ("InfluxDbUrl", "\"\"".toList), ("InfluxDbDatabase", "\"m\"".toList)]
  have document : IsDocument members text.toList :=
    ⟨[], text.toList, [], blank_nil, by decide +kernel, blank_nil, (List.append_nil _).symm⟩
  have describes : Describes settings {.url, .flushSeconds} members := by
    constructor
    · intro setting
      cases setting <;> decide +kernel
    · rintro setting (rfl | rfl) item member
      · obtain rfl : item = "\"\"".toList := by simpa [members, Setting.key] using member
        exact ⟨"", [], .nothing, rfl⟩
      · obtain rfl : item = "0".toList := by simpa [members, Setting.key] using member
        exact ⟨(0 : UInt64), .zero, rfl⟩
    · intro setting kept item member
      cases setting with
      | url | flushSeconds => simp at kept
      | database =>
          obtain rfl : item = "\"m\"".toList := by simpa [members, Setting.key] using member
          decide +kernel
      | _ => simp [members, Setting.key] at member
    · intro setting kept absent
      cases setting <;> first | rfl | simp [members, Setting.key] at absent kept
  have spelledOut : SpelledOut settings {.url, .flushSeconds} environment := by
    constructor
    · rintro setting (rfl | rfl) <;> exact Setting.value?_eq_some_iff.mp (by decide +kernel)
    · intro setting kept
      cases setting <;> first | rfl | simp at kept
  have spelledWider : SpelledOut settings {.url, .flushSeconds, .database} wider := by
    constructor
    · rintro setting (rfl | rfl | rfl) <;>
        exact Setting.value?_eq_some_iff.mp (by decide +kernel)
    · intro setting kept
      cases setting <;> first | rfl | simp at kept
  have nondefault : ∀ setting ∉ ({.url, .flushSeconds, .database} : Set Setting),
      setting.get settings = setting.get default := by
    intro setting kept
    cases setting <;> first | rfl | simp at kept
  have described := (effective_described spelledOut).1 members text document describes
  have alone := (effective_described spelledWider).2 nondefault
  have valid : settings.defect? = none := by decide +kernel
  rw [valid] at described alone
  exact ⟨described, alone⟩

end Settings

end TelemetryRelay
