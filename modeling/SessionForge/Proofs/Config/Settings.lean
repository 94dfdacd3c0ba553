/-
This file says what a document of settings comes to that was read as a table. There are eight
settings, each under its own key in one of three tables. If a table says of every setting that it
has a certain value, or nothing at all (`Given.ToldBy`), the configuration has these values and
otherwise its defaults (`read_of_toldBy`), in whatever order and among whatever other members the
document gives them.
-/

import SessionForge.Proofs.Config.Checks
import SessionForge.Proofs.Toml.Overlay

namespace SessionForge.Config

/-! ### Tables of settings -/

/-- The tables in which settings stand. -/
inductive Table where
  | agents
  | templates
  | logging
  deriving DecidableEq

namespace Table

/-- The name of a table. -/
def name : Table → String
  | .agents => "agents"
  | .templates => "templates"
  | .logging => "logging"

/-- The part of a configuration that a table is about. -/
def Part : Table → Type
  | .agents => AgentsConfig
  | .templates => TemplatesConfig
  | .logging => LoggingConfig

/-- The part of a configuration that a table is about. -/
def part : (table : Table) → Config → table.Part
  | .agents, config => config.agents
  | .templates, config => config.templates
  | .logging, config => config.logging

/-- The fields of a table. -/
def fields : (table : Table) → List (Toml.Field table.Part)
  | .agents => AgentsConfig.fields
  | .templates => TemplatesConfig.fields
  | .logging => LoggingConfig.fields

/-- Reads a table. -/
def reader : (table : Table) → Toml.Reader table.Part
  | .agents => .record "AgentsConfig" AgentsConfig.fields {}
  | .templates => .record "TemplatesConfig" TemplatesConfig.fields {}
  | .logging => .record "LoggingConfig" LoggingConfig.fields {}

theorem reader_table (table : Table) (members : List (String × Toml)) :
    table.reader (.table members) = Toml.overlay table.fields (table.part {}) members := by
  cases table <;> rfl

/-- Every table is about its own part of the configuration. -/
theorem governs (table : Table) :
    Toml.Field.Governs Config.fields table.name table.reader table.part := by
  cases table with
  | agents =>
    exact Toml.Field.governs_head (fun _ _ => rfl) (.cons (by decide) (fun _ _ => rfl)
      (.cons (by decide) (fun _ _ => rfl) Toml.Field.spare_nil))
  | templates =>
    exact .cons (by decide) (fun _ _ => rfl) (Toml.Field.governs_head (fun _ _ => rfl)
      (.cons (by decide) (fun _ _ => rfl) Toml.Field.spare_nil))
  | logging =>
    exact .cons (by decide) (fun _ _ => rfl) (.cons (by decide) (fun _ _ => rfl)
      (Toml.Field.governs_head (fun _ _ => rfl) Toml.Field.spare_nil))

end Table

/-! ### Settings -/

/-- What can be set. -/
inductive Setting where
  | locationHint
  | mailboxCapacity
  | idFormat
  | catalogKey
  | fetchTimeout
  | inferenceTimeout
  | level
  | json
  deriving DecidableEq

namespace Setting

/-- The table of a setting. -/
def table : Setting → Table
  | .locationHint | .mailboxCapacity | .idFormat => .agents
  | .catalogKey | .fetchTimeout | .inferenceTimeout => .templates
  | .level | .json => .logging

/-- The key of a setting in its table. -/
def key : Setting → String
  | .locationHint => "location_hint"
  | .mailboxCapacity => "mailbox_capacity"
  | .idFormat => "id_format"
  | .catalogKey => "catalog_key"
  | .fetchTimeout => "fetch_timeout_ms"
  | .inferenceTimeout => "inference_timeout_ms"
  | .level => "level"
  | .json => "json"

/-- What a setting can be set to. -/
def Value : Setting → Type
  | .locationHint | .catalogKey | .level => String
  | .mailboxCapacity | .fetchTimeout | .inferenceTimeout => UInt64
  | .idFormat => IdFormat
  | .json => Bool

/-- What a setting is set to in its part of a configuration. -/
def of : (setting : Setting) → setting.table.Part → setting.Value
  | .locationHint, (part : AgentsConfig) => part.locationHint
  | .mailboxCapacity, (part : AgentsConfig) => part.mailboxCapacity
  | .idFormat, (part : AgentsConfig) => part.idFormat
  | .catalogKey, (part : TemplatesConfig) => part.catalogKey
  | .fetchTimeout, (part : TemplatesConfig) => part.fetchTimeout
  | .inferenceTimeout, (part : TemplatesConfig) => part.inferenceTimeout
  | .level, (part : LoggingConfig) => part.level
  | .json, (part : LoggingConfig) => part.json

/-- What a setting is set to in a configuration. -/
def get (setting : Setting) (config : Config) : setting.Value :=
  setting.of (setting.table.part config)

/-- What a setting is set to, as a value of a document. -/
def toml : (setting : Setting) → setting.Value → Toml
  | .locationHint, (value : String) | .catalogKey, (value : String) | .level, (value : String) =>
    .text value
  | .mailboxCapacity, (value : UInt64) | .fetchTimeout, (value : UInt64)
  | .inferenceTimeout, (value : UInt64) => .integer value.toNat
  | .idFormat, (value : IdFormat) => .text value.name
  | .json, (value : Bool) => .boolean value

/-- Reads what a setting is set to. -/
def reader : (setting : Setting) → Toml.Reader setting.Value
  | .locationHint | .catalogKey | .level => Toml.Reader.text
  | .mailboxCapacity => Toml.Reader.unsigned .size
  | .fetchTimeout | .inferenceTimeout => Toml.Reader.unsigned .unsigned
  | .idFormat => Toml.Reader.choice IdFormat.choices
  | .json => Toml.Reader.boolean

theorem reader_toml (setting : Setting) (value : setting.Value) :
    setting.reader (setting.toml value) = .ok value := by
  have natural (value : UInt64) : UInt64.ofNat (value.toNat : Int).toNat = value := by
    rw [Int.toNat_natCast, UInt64.ofNat_toNat]
  have unsigned (wanted : Wanted) (value : UInt64) :
      Toml.Reader.unsigned wanted (.integer value.toNat) = .ok value := by
    rw [Toml.Reader.unsigned, if_pos (Int.natCast_nonneg _), natural]
  cases setting with
  | locationHint | catalogKey | level | json => rfl
  | mailboxCapacity => exact unsigned .size value
  | fetchTimeout | inferenceTimeout => exact unsigned .unsigned value
  | idFormat => cases value <;> rfl

/-- Every setting is read under its own key. -/
theorem governs (setting : Setting) :
    Toml.Field.Governs setting.table.fields setting.key setting.reader setting.of := by
  cases setting with
  | locationHint | catalogKey =>
    exact Toml.Field.governs_head (fun _ _ => rfl) (.cons (by decide) (fun _ _ => rfl)
      (.cons (by decide) (fun _ _ => rfl) Toml.Field.spare_nil))
  | mailboxCapacity | fetchTimeout =>
    exact .cons (by decide) (fun _ _ => rfl) (Toml.Field.governs_head (fun _ _ => rfl)
      (.cons (by decide) (fun _ _ => rfl) Toml.Field.spare_nil))
  | idFormat | inferenceTimeout =>
    exact .cons (by decide) (fun _ _ => rfl) (.cons (by decide) (fun _ _ => rfl)
      (Toml.Field.governs_head (fun _ _ => rfl) Toml.Field.spare_nil))
  | level =>
    exact Toml.Field.governs_head (fun _ _ => rfl)
      (.cons (by decide) (fun _ _ => rfl) Toml.Field.spare_nil)
  | json =>
    exact .cons (by decide) (fun _ _ => rfl)
      (Toml.Field.governs_head (fun _ _ => rfl) Toml.Field.spare_nil)

end Setting

/-- A configuration is what its settings are set to. -/
theorem eq_of_get_eq {config other : Config}
    (same : ∀ setting : Setting, setting.get config = setting.get other) : config = other := by
  obtain ⟨⟨_, _, _⟩, ⟨_, _, _⟩, ⟨_, _⟩⟩ := config
  obtain ⟨⟨_, _, _⟩, ⟨_, _, _⟩, ⟨_, _⟩⟩ := other
  obtain rfl : _ = _ := same .locationHint
  obtain rfl : _ = _ := same .mailboxCapacity
  obtain rfl : _ = _ := same .idFormat
  obtain rfl : _ = _ := same .catalogKey
  obtain rfl : _ = _ := same .fetchTimeout
  obtain rfl : _ = _ := same .inferenceTimeout
  obtain rfl : _ = _ := same .level
  obtain rfl : _ = _ := same .json
  rfl

/-! ### What is given -/

/-- What some of the settings are set to. -/
abbrev Given :=
  (setting : Setting) → Option setting.Value

/-- What a setting is set to in the end: what is given for it, or its default. -/
def Given.chosen (given : Given) (setting : Setting) : setting.Value :=
  (given setting).getD (setting.get {})

/-- The configuration that has what is given, and otherwise the defaults. -/
def Given.config (given : Given) : Config where
  agents :=
    { locationHint := given.chosen .locationHint
      mailboxCapacity := given.chosen .mailboxCapacity
      idFormat := given.chosen .idFormat }
  templates :=
    { catalogKey := given.chosen .catalogKey
      fetchTimeout := given.chosen .fetchTimeout
      inferenceTimeout := given.chosen .inferenceTimeout }
  logging :=
    { level := given.chosen .level
      json := given.chosen .json }

theorem Given.get_config (given : Given) (setting : Setting) :
    setting.get given.config = given.chosen setting := by
  cases setting <;> rfl

/-! ### Reading -/

/-- What stands under a key in a table of a document. -/
def under (whole : List (String × Toml)) (table key : String) : Option Toml :=
  match whole.lookup table with
  | some (.table members) => members.lookup key
  | _ => none

/-- A document says that the settings have certain values. The tables of the settings are tables,
and no name stands twice in them. -/
structure Given.ToldBy (given : Given) (whole : List (String × Toml)) : Prop where
  distinct : (whole.map Prod.fst).Nodup
  tables : ∀ (table : Table) (value : Toml), whole.lookup table.name = some value →
    ∃ members, value = .table members ∧ (members.map Prod.fst).Nodup
  settings : ∀ setting : Setting,
    under whole setting.table.name setting.key = (given setting).map setting.toml

/-- A field of a table can be set to what its setting can be set to. -/
theorem exists_setting {table : Table} {field : Toml.Field table.Part}
    (isField : field ∈ table.fields) :
    ∃ setting : Setting, setting.table = table ∧ setting.key = field.name ∧
      ∀ value record, ∃ after, field.set (setting.toml value) record = .ok after := by
  have sets {α : Type} (setting : Setting) (put : setting.Value → α → α) (value : setting.Value)
      (record : α) :
      ∃ after, (Toml.Field.of setting.key setting.reader put).set (setting.toml value) record =
        .ok after :=
    ⟨_, Toml.Field.of_eq_ok_iff.2 ⟨value, setting.reader_toml value, rfl⟩⟩
  cases table with
  | agents =>
    rcases List.mem_cons.1 isField with rfl | isField
    · exact ⟨.locationHint, rfl, rfl, sets .locationHint _⟩
    rcases List.mem_cons.1 isField with rfl | isField
    · exact ⟨.mailboxCapacity, rfl, rfl, sets .mailboxCapacity _⟩
    obtain rfl := List.mem_singleton.1 isField
    exact ⟨.idFormat, rfl, rfl, sets .idFormat _⟩
  | templates =>
    rcases List.mem_cons.1 isField with rfl | isField
    · exact ⟨.catalogKey, rfl, rfl, sets .catalogKey _⟩
    rcases List.mem_cons.1 isField with rfl | isField
    · exact ⟨.fetchTimeout, rfl, rfl, sets .fetchTimeout _⟩
    obtain rfl := List.mem_singleton.1 isField
    exact ⟨.inferenceTimeout, rfl, rfl, sets .inferenceTimeout _⟩
  | logging =>
    rcases List.mem_cons.1 isField with rfl | isField
    · exact ⟨.level, rfl, rfl, sets .level _⟩
    obtain rfl := List.mem_singleton.1 isField
    exact ⟨.json, rfl, rfl, sets .json _⟩

theorem exists_table {field : Toml.Field Config} (isField : field ∈ fields) :
    ∃ table : Table, table.name = field.name ∧ ∀ {value part}, table.reader value = .ok part →
      ∀ record, ∃ after, field.set value record = .ok after := by
  have sets {part : Type} {name : String} {reader : Toml.Reader part}
      {put : part → Config → Config} {value : Toml} {given : part}
      (isRead : reader value = .ok given) (record : Config) :
      ∃ after, (Toml.Field.of name reader put).set value record = .ok after :=
    ⟨_, Toml.Field.of_eq_ok_iff.2 ⟨given, isRead, rfl⟩⟩
  rcases List.mem_cons.1 isField with rfl | isField
  · exact ⟨.agents, rfl, sets⟩
  rcases List.mem_cons.1 isField with rfl | isField
  · exact ⟨.templates, rfl, sets⟩
  obtain rfl := List.mem_singleton.1 isField
  exact ⟨.logging, rfl, sets⟩

section ToldBy

variable {given : Given} {whole : List (String × Toml)} (told : given.ToldBy whole)

include told

/-- A table of settings is read, as all that is given in it has the type of its key. -/
theorem exists_reader_table {table : Table} {members : List (String × Toml)}
    (isTable : whole.lookup table.name = some (.table members))
    (distinct : (members.map Prod.fst).Nodup) :
    ∃ part, table.reader (.table members) = .ok part := by
  rw [table.reader_table]
  refine Toml.exists_overlay fun member isMember field isField named record => ?_
  obtain ⟨setting, rfl, isKey, sets⟩ := exists_setting isField
  have isGiven := told.settings setting
  rw [under, isTable] at isGiven
  simp only [isKey, named, Toml.lookup_of_mem distinct isMember] at isGiven
  obtain ⟨value, -, isValue⟩ := Option.map_eq_some_iff.1 isGiven.symm
  exact isValue ▸ sets value record

/-- A document with all its tables is read. -/
theorem exists_read : ∃ config, Toml.overlay fields {} whole = .ok config := by
  refine Toml.exists_overlay fun member isMember field isField named => ?_
  obtain ⟨table, isName, sets⟩ := exists_table isField
  have isTable := Toml.lookup_of_mem told.distinct isMember
  rw [← named, ← isName] at isTable
  obtain ⟨members, isMembers, distinct⟩ := told.tables table _ isTable
  rw [isMembers] at isTable ⊢
  obtain ⟨part, isRead⟩ := exists_reader_table told isTable distinct
  exact sets isRead

/-- The configuration has the values that the document says, and otherwise its defaults. -/
theorem read_of_toldBy :
    Toml.Reader.record "CgoConfig" fields {} (.table whole) = .ok given.config := by
  obtain ⟨config, isRead⟩ := exists_read told
  have same : config = given.config := by
    refine eq_of_get_eq fun setting => ?_
    rw [given.get_config, Given.chosen]
    have isGiven := told.settings setting
    obtain ⟨absent, present⟩ := Toml.part_of_overlay setting.table.governs told.distinct isRead
    cases found : whole.lookup setting.table.name with
    | none =>
      rw [under, found] at isGiven
      rw [Option.map_eq_none_iff.1 isGiven.symm, Setting.get, absent found]
      rfl
    | some value =>
      obtain ⟨members, rfl, distinct⟩ := told.tables _ _ found
      have isPart := present _ found
      rw [Table.reader_table] at isPart
      obtain ⟨absent, present⟩ := Toml.part_of_overlay setting.governs distinct isPart
      rw [under, found] at isGiven
      cases isSet : given setting with
      | none =>
        rw [isSet] at isGiven
        exact absent isGiven
      | some value =>
        rw [isSet] at isGiven
        have isRead := present _ isGiven
        rw [setting.reader_toml] at isRead
        exact (Except.ok.inj isRead).symm
  rw [← same]
  exact isRead

end ToldBy

end SessionForge.Config
