/-
The configuration: where agents are placed and how their identities look, where the catalog of
templates is and how long a selection may take, and what is logged. Every field has a default.
-/

import SessionForge.Agent.Request
import SessionForge.Identity.Format
import SessionForge.Template.Selector
import SessionForge.Text.Blank
import SessionForge.Toml.Reader

namespace SessionForge

/-- The configuration of agents. -/
structure AgentsConfig where
  locationHint : String := (default : LocationHint).name
  mailboxCapacity : UInt64 := 64
  idFormat : IdFormat := default
  deriving DecidableEq

/-- The configuration of templates; the budgets are in milliseconds. -/
structure TemplatesConfig where
  catalogKey : String := (default : SelectorConfig).catalogKey
  fetchTimeout : UInt64 := 10000
  inferenceTimeout : UInt64 := 60000
  deriving DecidableEq

/-- The configuration of the log. -/
structure LoggingConfig where
  level : String := "info"
  json : Bool := false
  deriving DecidableEq

/-- The whole configuration. -/
structure Config where
  agents : AgentsConfig := {}
  templates : TemplatesConfig := {}
  logging : LoggingConfig := {}
  deriving DecidableEq

instance : Inhabited Config :=
  ⟨{}⟩

/-! ### Errors -/

/-- Why there is no configuration. -/
inductive ConfigError where
  | io (path : String) (reason : String)
  | parse (refusal : Toml.Refusal)
  | invalid (reason : String)
  | telemetry (reason : String)
  deriving DecidableEq

/-- The message of a missing configuration. -/
def ConfigError.message : ConfigError → String
  | .io path reason => "io error reading " ++ path ++ ": " ++ reason
  | .parse refusal => "invalid config: " ++ refusal.describe
  | .invalid reason => "invalid config value: " ++ reason
  | .telemetry reason => "telemetry setup failed: " ++ reason

namespace Config

/-! ### Validity -/

/-- Checks a configuration. The first check that fails decides. -/
def validate (config : Config) : Except ConfigError Unit :=
  if isBlankText config.agents.locationHint then
    .error (.invalid "agents.location_hint must not be empty")
  else if config.agents.mailboxCapacity = 0 then
    .error (.invalid "agents.mailbox_capacity must be at least 1")
  else if isBlankText config.templates.catalogKey then
    .error (.invalid "templates.catalog_key must not be empty")
  else if config.templates.fetchTimeout = 0 ∨ config.templates.inferenceTimeout = 0 then
    .error (.invalid "template timeouts must be positive")
  else .ok ()

/-! ### What it is for -/

/-- Where agents are placed. -/
def locationHint (config : Config) : LocationHint :=
  ⟨config.agents.locationHint⟩

/-- The settings of the selector. -/
def selector (config : Config) : SelectorConfig where
  catalogKey := config.templates.catalogKey
  fetchTimeout := config.templates.fetchTimeout.toNat
  inferenceTimeout := config.templates.inferenceTimeout.toNat

/-! ### Changes -/

/-- A span of time. -/
structure Duration where
  seconds : Nat
  nanoseconds : Nat
  deriving DecidableEq

/-- The whole milliseconds of a span, or the greatest number of 64 bits if there are more. -/
def Duration.milliseconds (duration : Duration) : UInt64 :=
  UInt64.ofNat (min (duration.seconds * 1000 + duration.nanoseconds / 1000000) (Nat.pow 2 64 - 1))

/-- The configuration with another place for agents. -/
def withLocationHint (config : Config) (hint : String) : Config :=
  { config with agents := { config.agents with locationHint := hint } }

/-- The configuration with another form of identities. -/
def withIdFormat (config : Config) (format : IdFormat) : Config :=
  { config with agents := { config.agents with idFormat := format } }

/-- The configuration with another room for requests. -/
def withMailboxCapacity (config : Config) (capacity : UInt64) : Config :=
  { config with agents := { config.agents with mailboxCapacity := capacity } }

/-- The configuration with another place for the catalog. -/
def withCatalogKey (config : Config) (key : String) : Config :=
  { config with templates := { config.templates with catalogKey := key } }

/-- The configuration with other budgets. -/
def withTimeouts (config : Config) (fetch inference : Duration) : Config :=
  { config with
    templates :=
      { config.templates with
        fetchTimeout := fetch.milliseconds, inferenceTimeout := inference.milliseconds } }

end Config

end SessionForge
