import Mathlib.Data.List.Nodup
import Mathlib.Logic.Function.Basic
import TelemetryRelay.Proofs.Spelling

/-!
The settings one by one, and what variables do to them. Each setting follows its own variable where
that spells a value and stays as it is elsewhere, so overriding twice is overriding once by the
overlay of the two environments.
-/

namespace TelemetryRelay

def SettingKind.slot : (kind : SettingKind) → (kind.Value → Settings → Settings) → Settings.Slot
  | .text => .text
  | .flag => .flag
  | .count => .count
  | .port => .port

theorem SettingKind.override?_slot (kind : SettingKind)
    (store : kind.Value → Settings → Settings) (spelling : String) :
    (kind.slot store).override? spelling = (kind.read? spelling).map store := by
  cases kind with
  | text | flag => rfl
  | count | port => exact (Option.map_map ..).symm

inductive Setting
  | url
  | database
  | user
  | password
  | skipsVerification
  | metricPrefix
  | deployment
  | ip
  | flushSeconds
  | timeoutSeconds
  | listenerHost
  | listenerPort
deriving DecidableEq, Repr

namespace Setting

def all : List Setting :=
  [.url, .database, .user, .password, .skipsVerification, .metricPrefix, .deployment, .ip,
    .flushSeconds, .timeoutSeconds, .listenerHost, .listenerPort]

theorem mem_all (setting : Setting) : setting ∈ all := by
  cases setting <;> decide

theorem nodup_all : all.Nodup := by decide

def kind : Setting → SettingKind
  | .skipsVerification => .flag
  | .flushSeconds | .timeoutSeconds => .count
  | .listenerPort => .port
  | .url | .database | .user | .password | .metricPrefix | .deployment | .ip | .listenerHost =>
    .text

def key : Setting → String
  | .url => "InfluxDbUrl"
  | .database => "InfluxDbDatabase"
  | .user => "InfluxDbUser"
  | .password => "InfluxDbPassword"
  | .skipsVerification => "InsecureSSLSkipVerify"
  | .metricPrefix => "MetricPrefix"
  | .deployment => "Deployment"
  | .ip => "Ip"
  | .flushSeconds => "FlushDurationSeconds"
  | .timeoutSeconds => "HttpTimeoutSeconds"
  | .listenerHost => "ListenerHost"
  | .listenerPort => "ListenerPort"

def variableName : Setting → String
  | .url => "NOZZLE_INFLUXDBURL"
  | .database => "NOZZLE_INFLUXDBDATABASE"
  | .user => "NOZZLE_INFLUXDBUSER"
  | .password => "NOZZLE_INFLUXDBPASSWORD"
  | .skipsVerification => "NOZZLE_INSECURESSLSKIPVERIFY"
  | .metricPrefix => "NOZZLE_METRICPREFIX"
  | .deployment => "NOZZLE_DEPLOYMENT"
  | .ip => "NOZZLE_IP"
  | .flushSeconds => "NOZZLE_FLUSHDURATIONSECONDS"
  | .timeoutSeconds => "NOZZLE_HTTPTIMEOUTSECONDS"
  | .listenerHost => "NOZZLE_LISTENERHOST"
  | .listenerPort => "NOZZLE_LISTENERPORT"

def get : (setting : Setting) → Settings → setting.kind.Value
  | .url => Settings.url
  | .database => Settings.database
  | .user => Settings.user
  | .password => Settings.password
  | .skipsVerification => Settings.skipsVerification
  | .metricPrefix => Settings.metricPrefix
  | .deployment => Settings.deployment
  | .ip => Settings.ip
  | .flushSeconds => Settings.flushSeconds
  | .timeoutSeconds => Settings.timeoutSeconds
  | .listenerHost => Settings.listenerHost
  | .listenerPort => Settings.listenerPort

def put : (setting : Setting) → setting.kind.Value → Settings → Settings
  | .url, value, settings => { settings with url := value }
  | .database, value, settings => { settings with database := value }
  | .user, value, settings => { settings with user := value }
  | .password, value, settings => { settings with password := value }
  | .skipsVerification, value, settings => { settings with skipsVerification := value }
  | .metricPrefix, value, settings => { settings with metricPrefix := value }
  | .deployment, value, settings => { settings with deployment := value }
  | .ip, value, settings => { settings with ip := value }
  | .flushSeconds, value, settings => { settings with flushSeconds := value }
  | .timeoutSeconds, value, settings => { settings with timeoutSeconds := value }
  | .listenerHost, value, settings => { settings with listenerHost := value }
  | .listenerPort, value, settings => { settings with listenerPort := value }

@[simp] theorem get_put (setting : Setting) (value : setting.kind.Value) (settings : Settings) :
    setting.get (setting.put value settings) = value := by
  cases setting <;> rfl

theorem get_put_of_ne {setting other : Setting} (differ : other ≠ setting)
    (value : setting.kind.Value) (settings : Settings) :
    other.get (setting.put value settings) = other.get settings := by
  cases setting <;> cases other <;> first | rfl | exact (differ rfl).elim

theorem ext_get {settings others : Settings}
    (same : ∀ setting : Setting, setting.get settings = setting.get others) :
    settings = others := by
  cases settings
  cases others
  simp only [Settings.mk.injEq]
  exact ⟨same .url, same .database, same .user, same .password, same .skipsVerification,
    same .metricPrefix, same .deployment, same .ip, same .flushSeconds, same .timeoutSeconds,
    same .listenerHost, same .listenerPort⟩

theorem variableName_inj {setting other : Setting}
    (same : setting.variableName = other.variableName) : setting = other := by
  cases setting <;> cases other <;> first | rfl | simp [variableName] at same

def entry (setting : Setting) : Settings.Entry :=
  ⟨setting.key, setting.kind.slot setting.put⟩

theorem entries_eq : Settings.entries = all.map entry := rfl

theorem variableName_entry (setting : Setting) :
    setting.entry.variableName = setting.variableName := by
  cases setting <;> decide +kernel

def value? (setting : Setting) (environment : Settings.Environment) : Option setting.kind.Value :=
  (environment setting.variableName).bind setting.kind.read?

theorem value?_eq_some_iff {setting : Setting} {environment : Settings.Environment}
    {value : setting.kind.Value} :
    setting.value? environment = some value ↔
      ∃ spelling, environment setting.variableName = some spelling ∧
        setting.kind.Spells value spelling := by
  simp only [value?, Option.bind_eq_some_iff, SettingKind.read?_eq_some_iff]

theorem value?_eq_none_iff {setting : Setting} {environment : Settings.Environment} :
    setting.value? environment = none ↔
      ∀ spelling, environment setting.variableName = some spelling →
        ¬setting.kind.Accepts spelling := by
  simp only [value?, Option.bind_eq_none_iff, SettingKind.accepts_iff,
    Option.not_isSome_iff_eq_none]

theorem apply_entry (setting : Setting) (environment : Settings.Environment)
    (settings : Settings) :
    setting.entry.apply environment settings =
      match setting.value? environment with
      | some value => setting.put value settings
      | none => settings := by
  unfold Settings.Entry.apply value?
  rw [variableName_entry]
  cases environment setting.variableName with
  | none => rfl
  | some spelling =>
      simp only [entry, SettingKind.override?_slot, Option.bind_some]
      cases setting.kind.read? spelling <;> rfl

theorem get_apply (setting : Setting) (environment : Settings.Environment) (settings : Settings) :
    setting.get (setting.entry.apply environment settings) =
      (setting.value? environment).getD (setting.get settings) := by
  rw [apply_entry]
  cases setting.value? environment <;> simp

theorem get_apply_of_ne {setting other : Setting} (differ : other ≠ setting)
    (environment : Settings.Environment) (settings : Settings) :
    other.get (setting.entry.apply environment settings) = other.get settings := by
  rw [apply_entry]
  cases setting.value? environment with
  | none => rfl
  | some value => exact get_put_of_ne differ value settings

theorem get_foldl_apply (settings : Settings) {others : List Setting} (distinct : others.Nodup)
    (setting : Setting) (environment : Settings.Environment) :
    setting.get (others.foldl (fun settings other => other.entry.apply environment settings)
        settings) =
      if setting ∈ others then (setting.value? environment).getD (setting.get settings)
      else setting.get settings := by
  induction others generalizing settings with
  | nil => rfl
  | cons other others ih =>
      obtain ⟨absent, distinct⟩ := List.nodup_cons.mp distinct
      rw [List.foldl_cons, ih _ distinct]
      by_cases same : setting = other
      · subst same
        simp [absent, get_apply]
      · simp [same, get_apply_of_ne same]

theorem get_override (setting : Setting) (settings : Settings)
    (environment : Settings.Environment) :
    setting.get (settings.override environment) =
      (setting.value? environment).getD (setting.get settings) := by
  have folded := get_foldl_apply settings nodup_all setting environment
  rw [if_pos (mem_all setting)] at folded
  rw [Settings.override, entries_eq, List.foldl_map]
  exact folded

end Setting

namespace Settings

/-- The environment that answers each variable as the second one does where the setting accepts
that, and as the first one does elsewhere. -/
structure Overlays (first second combined : Environment) : Prop where
  accepted : ∀ (setting : Setting) (spelling : String),
    second setting.variableName = some spelling → setting.kind.Accepts spelling →
      combined setting.variableName = some spelling
  otherwise : ∀ setting : Setting,
    (∀ spelling, second setting.variableName = some spelling → ¬setting.kind.Accepts spelling) →
      combined setting.variableName = first setting.variableName

theorem Overlays.value? {first second combined : Environment}
    (overlays : Overlays first second combined) (setting : Setting) :
    setting.value? combined = (setting.value? second).or (setting.value? first) := by
  cases found : setting.value? second with
  | none =>
      have same := overlays.otherwise setting (Setting.value?_eq_none_iff.mp found)
      rw [Setting.value?, same, Option.none_or, Setting.value?]
  | some value =>
      obtain ⟨spelling, answered, spells⟩ := Setting.value?_eq_some_iff.mp found
      have answer := overlays.accepted setting spelling answered ⟨value, spells⟩
      exact Setting.value?_eq_some_iff.mpr ⟨spelling, answer, spells⟩

theorem overlays_iff {first second combined : Environment} :
    Overlays first second combined ↔
      ∀ setting ∈ Setting.all, combined setting.variableName =
        if (setting.value? second).isSome then second setting.variableName
        else first setting.variableName := by
  constructor
  · intro overlays setting _
    split
    · rename_i some
      obtain ⟨value, found⟩ := Option.isSome_iff_exists.mp some
      obtain ⟨spelling, answered, spells⟩ := Setting.value?_eq_some_iff.mp found
      rw [overlays.accepted setting spelling answered ⟨value, spells⟩, answered]
    · rename_i none
      exact overlays.otherwise setting
        (Setting.value?_eq_none_iff.mp (Option.not_isSome_iff_eq_none.mp none))
  · intro same
    refine ⟨fun setting spelling answered accepts => ?_, fun setting refuses => ?_⟩
    · obtain ⟨value, spells⟩ := accepts
      have found := Setting.value?_eq_some_iff.mpr ⟨spelling, answered, spells⟩
      rw [same setting setting.mem_all, found, ← answered]
      rfl
    · rw [same setting setting.mem_all, Setting.value?_eq_none_iff.mpr refuses]
      rfl

instance (first second combined : Environment) : Decidable (Overlays first second combined) :=
  decidable_of_iff _ overlays_iff.symm

theorem override_congr {first second : Environment} (settings : Settings)
    (same : ∀ setting : Setting, setting.value? first = setting.value? second) :
    settings.override first = settings.override second := by
  apply Setting.ext_get
  intro setting
  rw [setting.get_override, setting.get_override, same]

theorem value?_update_of_ne {setting other : Setting} (differ : other ≠ setting)
    (environment : Environment) (answer : Option String) :
    other.value? (Function.update environment setting.variableName answer) =
      other.value? environment := by
  have names : other.variableName ≠ setting.variableName := fun same =>
    differ (Setting.variableName_inj same)
  rw [Setting.value?, Function.update_of_ne names, Setting.value?]

/-- Overrides compose as overlays. A refused text is as good as none, a variable has a bearing on
its own setting only, and overriding again by the same environment changes nothing. -/
theorem override_overlays (settings : Settings) {first second combined : Environment}
    (overlays : Overlays first second combined) :
    (settings.override first).override second = settings.override combined ∧
    (∀ (environment : Environment) (setting : Setting) (spelling : String),
      ¬setting.kind.Accepts spelling →
        let refused := Function.update environment setting.variableName (some spelling)
        setting.get (settings.override refused) = setting.get settings ∧
          settings.override refused =
            settings.override (Function.update environment setting.variableName none)) ∧
    (∀ (environment other : Environment) (setting : Setting),
      environment setting.variableName = other setting.variableName →
        setting.get (settings.override environment) = setting.get (settings.override other)) ∧
    ∀ environment, (settings.override environment).override environment =
      settings.override environment := by
  refine ⟨?_, ?_, ?_, ?_⟩
  · apply Setting.ext_get
    intro setting
    simp only [setting.get_override, overlays.value? setting]
    cases setting.value? second <;> simp
  · intro environment setting spelling unaccepted refused
    have answer : refused setting.variableName = some spelling := Function.update_self ..
    have nothing : setting.value? refused = none := by
      refine Setting.value?_eq_none_iff.mpr fun other answered => ?_
      cases answer.symm.trans answered
      exact unaccepted
    refine ⟨by rw [setting.get_override, nothing, Option.getD_none], override_congr _ ?_⟩
    intro other
    by_cases same : other = setting
    · subst same
      rw [nothing, Setting.value?, Function.update_self, Option.bind_none]
    · rw [value?_update_of_ne same, value?_update_of_ne same]
  · intro environment other setting same
    rw [setting.get_override, setting.get_override, Setting.value?, same, ← Setting.value?]
  · intro environment
    apply Setting.ext_get
    intro setting
    simp only [setting.get_override]
    cases setting.value? environment <;> simp

theorem override_overlays_refused :
    let first : Environment := fun name => List.lookup name
      [("NOZZLE_LISTENERPORT", "9000"), ("NOZZLE_METRICPREFIX", "cf.")]
    let second : Environment := fun name => List.lookup name
      [("NOZZLE_LISTENERPORT", "not-a-port"), ("NOZZLE_METRICPREFIX", ""),
        ("NOZZLE_INSECURESSLSKIPVERIFY", " true\n")]
    let combined : Environment := fun name => List.lookup name
      [("NOZZLE_LISTENERPORT", "9000"), ("NOZZLE_METRICPREFIX", ""),
        ("NOZZLE_INSECURESSLSKIPVERIFY", " true\n")]
    Overlays first second combined ∧
      (default.override first).override second = default.override combined ∧
      default.override combined =
        { default with listenerPort := 9000, skipsVerification := true } := by
  intro first second combined
  have overlays : Overlays first second combined := by decide +kernel
  exact ⟨overlays, (override_overlays default overlays).1, by decide +kernel⟩

end Settings

end TelemetryRelay
