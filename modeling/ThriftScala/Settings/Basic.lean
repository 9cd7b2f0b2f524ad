/-
  Settings of the generator.

  A setting may have any JSON value; what uses a setting says which values it can use.  Settings
  come from an object whose keys are the names below; `custom` holds the names of Scala types and
  whatever else is set.
-/
import ThriftScala.Files
import ThriftScala.Json.Reader
import ThriftScala.Schema.Document
import ThriftScala.Settings.Custom

namespace ThriftScala

/-- Settings of a generator. -/
structure Settings where
  outputFile : Json := .null
  /-- The package of documents that name none. -/
  packageName : Json := .str standardNamespace
  lineEnding : Json := .str "\n"
  fieldCase : Json := .str "camel"
  addComments : Json := .bool true
  serviceOptions : Json := .arr []
  custom : Custom := .entries []

/-- What is wrong with a setting. -/
inductive SettingsProblem where
  | fieldCase (got : Json)
  | serviceOption (got : Json)
  | emptyPackage
  | package (got : String)

/-- What a problem says. -/
def SettingsProblem.message : SettingsProblem → String
  | .fieldCase got => "Invalid field_case: " ++ got.display
  | .serviceOption got => "Invalid service option: " ++ got.display
  | .emptyPackage => "package_name cannot be empty"
  | .package got => "Invalid Scala package name: " ++ got

/-- Why settings cannot be had or kept. -/
inductive SettingsError where
  | problems (ps : List SettingsProblem)
  | fileNotFound (path : String)
  | fileNotNamedJson (path : String)
  | fileNotJson (path : String) (fault : Json.ReadError)
  | fileNotObject (path : String)
  | fileUnreadable (path : String) (fault : FileFault)
  | fileUnwritable (path : String) (fault : FileFault)
  | misuse (m : Misuse)

/-- What an error says; a misuse has no words of its own. -/
def SettingsError.message : SettingsError → String
  | .problems ps => String.joinedBy "; " (ps.map (·.message))
  | .fileNotFound path => "Configuration file not found: " ++ path
  | .fileNotNamedJson path => "Configuration file must be JSON: " ++ path
  | .fileNotJson path fault =>
    "Invalid JSON in configuration file " ++ path ++ ": " ++ fault.message
  | .fileNotObject path => "Configuration file must contain a JSON object: " ++ path
  | .fileUnreadable path fault =>
    "Failed to load configuration file " ++ path ++ ": " ++ fault.message
  | .fileUnwritable path fault =>
    "Failed to save configuration to " ++ path ++ ": " ++ fault.message
  | .misuse _ => ""

namespace Settings

/-- The names of the settings. -/
def names : List String :=
  ["output_file", "package_name", "line_ending", "field_case", "add_comments", "service_options",
   "custom"]

/-- The settings that entries by name give; the others have their standard values. -/
def ofEntries (es : Entries Json) : Settings :=
  let standard : Settings := {}
  { outputFile := (es.get? "output_file").getD standard.outputFile
    packageName := (es.get? "package_name").getD standard.packageName
    lineEnding := (es.get? "line_ending").getD standard.lineEnding
    fieldCase := (es.get? "field_case").getD standard.fieldCase
    addComments := (es.get? "add_comments").getD standard.addComments
    serviceOptions := (es.get? "service_options").getD standard.serviceOptions
    custom := ((es.get? "custom").map Custom.ofJson).getD standard.custom }

/-- The settings that entries give if every entry names a setting. -/
def ofNamed (es : Entries Json) : Except Misuse Settings :=
  if es.keys.all names.contains then .ok (ofEntries es) else .error .wrongKind

/-- The naming case of the settings. -/
def namingCase (s : Settings) : Except Misuse NamingCase :=
  match s.fieldCase with
  | .str word =>
    match NamingCase.ofName? word with
    | some case => .ok case
    | none => .error .badValue
  | _ => .error .badValue

end Settings

end ThriftScala
