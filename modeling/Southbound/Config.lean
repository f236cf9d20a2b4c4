import Southbound.Device.Reader
import Southbound.Failure
import Southbound.Path
import Southbound.Toml.Document

/-!
# Configuration

The configuration file holds the provider's own settings in four sections and the list of desired
devices.  Every section and every setting may be missing and has a default of its own; a device has
none, apart from its key.  `Config.read?` reads a whole document, `Config.settings` derives what
the provider runs with, and `Config.desiredDevices` is what one application is told.
-/

namespace Southbound

/-! ## Sections -/

/-- Which application the devices belong to and how they are spoken to. -/
structure ProviderSection where
  appId : String
  scheme : String
  logLevel : String
deriving DecidableEq

/-- When passes over the desired devices run. -/
structure SchedulerSection where
  initialDelaySecs : Nat
  periodSecs : Nat
deriving DecidableEq

/-- How many jobs run at a time. -/
structure PoolSection where
  eventWorkers : Nat
  connectionWorkers : Nat
deriving DecidableEq

/-- How long a device may take to answer a probe. -/
structure ProbeSection where
  timeoutMs : Nat
deriving DecidableEq

/-- A whole configuration file. -/
structure Config where
  provider : ProviderSection
  scheduler : SchedulerSection
  pools : PoolSection
  probe : ProbeSection
  devices : List DesiredDevice
deriving DecidableEq

/-- The section that stands for a missing one. -/
def ProviderSection.default : ProviderSection := ⟨"org.nelm.provider", "netconf", "info"⟩

/-- The section that stands for a missing one. -/
def SchedulerSection.default : SchedulerSection := ⟨3, 30⟩

/-- The section that stands for a missing one. -/
def PoolSection.default : PoolSection := ⟨5, 10⟩

/-- The section that stands for a missing one. -/
def ProbeSection.default : ProbeSection := ⟨2000⟩

namespace Config

/-- The configuration of an empty file. -/
def default : Config := ⟨.default, .default, .default, .default, []⟩

end Config

/-! ## Reading -/

/-- The largest number that a setting may have. -/
def settingLimit : Nat := 0xFFFFFFFFFFFFFFFF

/-- Reads the section; what is missing in it has its default. -/
def ProviderSection.read? (d : Datum) : Option ProviderSection := do
  let fields ← Encoding.configuration.fields? 3 d
  let appId ← fields.withDefault 0 "app_id" Datum.asText default.appId
  let scheme ← fields.withDefault 1 "scheme" Datum.asText default.scheme
  let logLevel ← fields.withDefault 2 "log_level" Datum.asText default.logLevel
  some { appId, scheme, logLevel }

/-- Reads the section; what is missing in it has its default. -/
def SchedulerSection.read? (d : Datum) : Option SchedulerSection := do
  let fields ← Encoding.configuration.fields? 2 d
  let initialDelaySecs ←
    fields.withDefault 0 "initial_delay_secs" (Datum.asNat settingLimit) default.initialDelaySecs
  let periodSecs ←
    fields.withDefault 1 "period_secs" (Datum.asNat settingLimit) default.periodSecs
  some { initialDelaySecs, periodSecs }

/-- Reads the section; what is missing in it has its default. -/
def PoolSection.read? (d : Datum) : Option PoolSection := do
  let fields ← Encoding.configuration.fields? 2 d
  let eventWorkers ←
    fields.withDefault 0 "event_workers" (Datum.asNat settingLimit) default.eventWorkers
  let connectionWorkers ←
    fields.withDefault 1 "connection_workers" (Datum.asNat settingLimit) default.connectionWorkers
  some { eventWorkers, connectionWorkers }

/-- Reads the section; what is missing in it has its default. -/
def ProbeSection.read? (d : Datum) : Option ProbeSection := do
  let fields ← Encoding.configuration.fields? 1 d
  let timeoutMs ← fields.withDefault 0 "timeout_ms" (Datum.asNat settingLimit) default.timeoutMs
  some { timeoutMs }

/-- Reads a whole document; missing sections have their defaults, and no devices are desired where
none are listed. -/
def Config.read? (d : Datum) : Option Config := do
  let fields ← Encoding.configuration.fields? 5 d
  let provider ← fields.withDefault 0 "provider" ProviderSection.read? .default
  let scheduler ← fields.withDefault 1 "scheduler" SchedulerSection.read? .default
  let pools ← fields.withDefault 2 "pools" PoolSection.read? .default
  let probe ← fields.withDefault 3 "probe" ProbeSection.read? .default
  let devices ← fields.withDefault 4 "devices"
    (Datum.asListOf (DesiredDevice.read? Encoding.configuration)) []
  some { provider, scheduler, pools, probe, devices }

/-! ## Files -/

/-- What is found where the configuration file should be. -/
inductive ConfigFile
  | missing
  | directory
  | content (bytes : ByteArray)

/-- Why there is no configuration. -/
inductive ConfigError
  /-- The environment names no place for configuration files. -/
  | noDirectory
  /-- The file cannot be read as text. -/
  | unreadable
  /-- The text is no configuration. -/
  | malformed
deriving DecidableEq

namespace ConfigError

/-- The error in words; what the file system or the document has to say about it is shown as
`<detail>`. -/
def message : ConfigError → String
  | noDirectory => "could not determine platform config directory"
  | unreadable => "I/O error accessing config at <detail>"
  | malformed => "failed to parse config TOML: <detail>"

end ConfigError

namespace Config

/-- The configuration in a file, as documents are read.  Where there is no file everything has its
default. -/
def loadWith (document? : String → Option Datum) : ConfigFile → Except ConfigError Config
  | .missing => .ok default
  | .directory => .error .unreadable
  | .content bytes =>
    match String.fromUTF8? bytes with
    | none => .error .unreadable
    | some text =>
      match document? text >>= read? with
      | none => .error .malformed
      | some config => .ok config

/-- The configuration in a file. -/
def load : ConfigFile → Except ConfigError Config := loadWith Toml.read?

/-- What an application is told: the devices, if the configuration is its own. -/
def devicesFor (loaded : Except ConfigError Config) (appId : String) :
    Except ConfigReadError (List DesiredDevice) :=
  match loaded with
  | .error e => .error (.malformed e.message)
  | .ok config =>
    if config.provider.appId = appId then .ok config.devices else .error (.unavailable appId)

/-- What an application is told of a file. -/
def desiredDevices (file : ConfigFile) (appId : String) :
    Except ConfigReadError (List DesiredDevice) :=
  devicesFor (load file) appId

/-- Where the configuration file is: below the configuration directory that the environment names,
or else below the home directory. -/
def path? (configHome home : Option String) : Except ConfigError String :=
  match configHome <|> home.map (Path.join · ".config") with
  | none => .error .noDirectory
  | some base => .ok (Path.join (Path.join base "nelm") "provider.toml")

end Config

/-! ## Settings -/

/-- What the provider runs with; all times are in milliseconds. -/
structure Settings where
  appId : String
  scheme : String
  initialDelay : Nat
  period : Nat
  eventWorkers : Nat
  connectionWorkers : Nat
  probeTimeout : Nat
deriving DecidableEq

/-- The settings of an empty file. -/
def Settings.default : Settings := ⟨"org.nelm.provider", "netconf", 3000, 30000, 5, 10, 2000⟩

/-- The settings that a configuration describes; passes are at least a second apart. -/
def Config.settings (c : Config) : Settings where
  appId := c.provider.appId
  scheme := c.provider.scheme
  initialDelay := 1000 * c.scheduler.initialDelaySecs
  period := 1000 * max c.scheduler.periodSecs 1
  eventWorkers := c.pools.eventWorkers
  connectionWorkers := c.pools.connectionWorkers
  probeTimeout := c.probe.timeoutMs

end Southbound
