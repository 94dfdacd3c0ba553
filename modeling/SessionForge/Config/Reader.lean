/-
Reading and writing configurations: as settings, which are checked, or as values of documents, which
are not.
-/

import SessionForge.Config.Basic
import SessionForge.Toml.Reader

namespace SessionForge

/-! ### Settings -/

/-- The settings of agents. -/
def AgentsConfig.fields : List (Toml.Field AgentsConfig) :=
  [.of "location_hint" Toml.Reader.text fun hint config => { config with locationHint := hint },
    .of "mailbox_capacity" (Toml.Reader.unsigned .size) fun capacity config =>
      { config with mailboxCapacity := capacity },
    .of "id_format" (Toml.Reader.choice IdFormat.choices) fun format config =>
      { config with idFormat := format }]

/-- The settings of templates. -/
def TemplatesConfig.fields : List (Toml.Field TemplatesConfig) :=
  [.of "catalog_key" Toml.Reader.text fun key config => { config with catalogKey := key },
    .of "fetch_timeout_ms" (Toml.Reader.unsigned .unsigned) fun budget config =>
      { config with fetchTimeout := budget },
    .of "inference_timeout_ms" (Toml.Reader.unsigned .unsigned) fun budget config =>
      { config with inferenceTimeout := budget }]

/-- The settings of the log. -/
def LoggingConfig.fields : List (Toml.Field LoggingConfig) :=
  [.of "level" Toml.Reader.text fun level config => { config with level },
    .of "json" Toml.Reader.boolean fun json config => { config with json }]

namespace Config

/-- All settings. -/
def fields : List (Toml.Field Config) :=
  [.of "agents" (Toml.Reader.record "AgentsConfig" AgentsConfig.fields {}) fun agents config =>
      { config with agents },
    .of "templates" (Toml.Reader.record "TemplatesConfig" TemplatesConfig.fields {})
      fun templates config => { config with templates },
    .of "logging" (Toml.Reader.record "LoggingConfig" LoggingConfig.fields {})
      fun logging config => { config with logging }]

/-- Reads and checks a configuration that is given as settings. -/
def ofToml (text : String) : Except ConfigError Config := do
  let config ← (Toml.read (Toml.Reader.record "CgoConfig" fields {}) text).mapError .parse
  config.validate
  return config

end Config

/-! ### Documents -/

/-- The fields of the configuration of agents. -/
def AgentsConfig.shape : Json.Shape AgentsConfig :=
  AgentsConfig.mk
    <$> .defaulted "location_hint" Json.Reader.text ({} : AgentsConfig).locationHint
    <*> .defaulted "mailbox_capacity" (Json.Reader.unsigned .size)
      ({} : AgentsConfig).mailboxCapacity
    <*> .defaulted "id_format" IdFormat.reader ({} : AgentsConfig).idFormat

/-- The fields of the configuration of templates. -/
def TemplatesConfig.shape : Json.Shape TemplatesConfig :=
  TemplatesConfig.mk
    <$> .defaulted "catalog_key" Json.Reader.text ({} : TemplatesConfig).catalogKey
    <*> .defaulted "fetch_timeout_ms" (Json.Reader.unsigned .unsigned)
      ({} : TemplatesConfig).fetchTimeout
    <*> .defaulted "inference_timeout_ms" (Json.Reader.unsigned .unsigned)
      ({} : TemplatesConfig).inferenceTimeout

/-- The fields of the configuration of the log. -/
def LoggingConfig.shape : Json.Shape LoggingConfig :=
  LoggingConfig.mk
    <$> .defaulted "level" Json.Reader.text ({} : LoggingConfig).level
    <*> .defaulted "json" Json.Reader.boolean ({} : LoggingConfig).json

namespace Config

/-- The fields of a configuration. -/
def shape : Json.Shape Config :=
  Config.mk <$> .defaulted "agents" (AgentsConfig.shape.reader "AgentsConfig") {}
    <*> .defaulted "templates" (TemplatesConfig.shape.reader "TemplatesConfig") {}
    <*> .defaulted "logging" (LoggingConfig.shape.reader "LoggingConfig") {}

/-- Reads a configuration that is a value of a document. -/
def reader : Json.Reader Config :=
  shape.reader "CgoConfig"

/-- A configuration as a value of a document. -/
def toJson (config : Config) : Json :=
  .object
    [("agents", .object
      [("location_hint", .text config.agents.locationHint),
        ("mailbox_capacity", .number (.integer config.agents.mailboxCapacity.toNat)),
        ("id_format", config.agents.idFormat.toJson)]),
      ("templates", .object
        [("catalog_key", .text config.templates.catalogKey),
          ("fetch_timeout_ms", .number (.integer config.templates.fetchTimeout.toNat)),
          ("inference_timeout_ms", .number (.integer config.templates.inferenceTimeout.toNat))]),
      ("logging", .object
        [("level", .text config.logging.level), ("json", .boolean config.logging.json)])]

end Config

end SessionForge
