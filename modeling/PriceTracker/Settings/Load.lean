import PriceTracker.Environment.File
import PriceTracker.Settings.File
import PriceTracker.Settings.Validation

/-!
# Loading settings

The settings of the database come from environment variables, those of the crawl from a settings
file if one is named. `Settings.load` takes, in this order, the file of environment variables, the
variables, the settings file and the rules of `Settings.validate`; the first that fails is the
error.
-/

namespace PriceTracker

/-- Why settings cannot be loaded. -/
inductive SettingsError where
  /-- There is no settings file of the name. -/
  | missingFile
  /-- The settings file is no text. -/
  | fileNotText
  /-- The settings file is no TOML, or a value in it is of the wrong kind. -/
  | badFile
  /-- The file of environment variables breaks a rule. -/
  | badEnvironmentFile
  /-- A variable is not set, or is blank. -/
  | missingVariable (name : String)
  /-- The settings break a rule. -/
  | invalid (fault : SettingsFault)
  deriving DecidableEq, Repr

/-- The wording of the error. -/
def SettingsError.message : SettingsError → String
  | .missingFile => "Failed to read config file: No such file or directory (os error 2)"
  | .fileNotText => "Failed to read config file: stream did not contain valid UTF-8"
  | .badFile => "Failed to parse TOML: it states no settings"
  | .badEnvironmentFile => "Failed to load .env file: it holds a line that assigns nothing"
  | .missingVariable name => s!"Required environment variable {name} is not set"
  | .invalid fault =>
    if fault.isUrlFault then s!"Invalid URL in config: {fault.reason}"
    else s!"Validation error: {fault.reason}"

namespace Settings

/-- The variable that names the database file. -/
def connectionVariable : String := "BIKERO_DB_CONNECTION"

/-- The variable that names the product table. -/
def productTableVariable : String := "BIKERO_PRODUCT_TABLE"

/-- The variable that names the price table. -/
def priceTableVariable : String := "BIKERO_PRICE_TABLE"

/-- The trimmed value of a variable; a blank value counts as missing. -/
def require (lookup : String → Option String) (name : String) : Except SettingsError String :=
  match (lookup name).map Text.trim with
  | some value => if value.isEmpty then .error (.missingVariable name) else .ok value
  | none => .error (.missingVariable name)

/-- The settings of the database, from three variables. -/
def loadDatabase (lookup : String → Option String) : Except SettingsError DatabaseSettings := do
  return {
    connection := ← require lookup connectionVariable
    productTable := ← require lookup productTableVariable
    priceTable := ← require lookup priceTableVariable }

/-- The settings in the bytes of a settings file, if it exists. -/
def loadFile (content : Option (List UInt8)) : Except SettingsError CrawlFile :=
  match content with
  | none => .error .missingFile
  | some bytes =>
    match Text.Utf8.decode? bytes with
    | none => .error .fileNotText
    | some text =>
      match CrawlFile.parse? text with
      | none => .error .badFile
      | some file => .ok file

/-- Where settings are loaded from. -/
structure Sources where
  environment : Environment := {}
  /-- The file of environment variables, if there is one. -/
  environmentFile : Option (List UInt8) := none
  /-- The settings file, if one is named; nothing inside if it does not exist. -/
  settingsFile : Option (Option (List UInt8)) := none
  deriving Inhabited

/-- The environment with the assignments of the file of environment variables. -/
def Sources.fullEnvironment (sources : Sources) : Except SettingsError Environment :=
  match sources.environmentFile with
  | none => .ok sources.environment
  | some bytes =>
    match sources.environment.loadFile? bytes with
    | some env => .ok env
    | none => .error .badEnvironmentFile

/-- Settings from all sources, checked. -/
def load (sources : Sources) : Except SettingsError Settings := do
  let env ← sources.fullEnvironment
  let database ← loadDatabase env.get?
  let file ← match sources.settingsFile with
    | none => pure {}
    | some content => loadFile content
  let settings : Settings := { database, crawl := file.crawl, agent := file.agent }
  match settings.validate with
  | .error fault => throw (.invalid fault)
  | .ok () => return settings

end Settings

end PriceTracker
