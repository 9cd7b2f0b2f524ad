/-
  Settings from layers of sources: the defaults of a language, a file, and overrides.

  A later layer wins over an earlier one, setting by setting; objects under `custom` are merged
  key by key.  After all layers, the keys that name no setting go into `custom`, behind what is
  there.
-/
import ThriftScala.Settings.Basic

namespace ThriftScala

namespace Settings

/-- The defaults of each language that has some. -/
def defaults : Entries (Entries Json) :=
  [("scala",
    [("package_name", .str standardNamespace),
     ("field_case", .str "camel"),
     ("add_comments", .bool true),
     ("service_options", .arr []),
     ("custom", .obj
       [("list_type", .str "Seq"),
        ("set_type", .str "Set"),
        ("map_type", .str "Map"),
        ("option_type", .str "Option"),
        ("binary_type", .str "ByteBuffer")])])]

/-- The languages with defaults. -/
def languages : List String := defaults.keys

/-- Puts one entry of a later layer over an earlier layer. -/
def layEntry (base : Entries Json) (key : String) (value : Json) : Except Misuse (Entries Json) :=
  match key, value with
  | "custom", .obj members =>
    match base.get? "custom" with
    | none => .ok (base.set "custom" (.obj (Entries.update [] members)))
    | some (.obj there) => .ok (base.set "custom" (.obj (Entries.update there members)))
    | some _ => .error .noOperation
  | _, _ => .ok (base.set key value)

/-- Puts a later layer over an earlier one. -/
def lay (base layer : Entries Json) : Except Misuse (Entries Json) :=
  layer.foldlM (fun base e => layEntry base e.1 e.2) base

/-- Puts overrides over a layer; what counts as nothing overrides nothing. -/
def layValue (base : Entries Json) (overrides : Json) : Except Misuse (Entries Json) :=
  if overrides.truthy then
    match overrides with
    | .obj members => lay base members
    | _ => .error .noOperation
  else .ok base

/-- The settings of entries, of which those that name no setting are custom ones. -/
def ofLayers (es : Entries Json) : Except Misuse Settings :=
  let extra := es.filter fun e => !names.contains e.1
  let settings := ofEntries es
  if extra.isEmpty then .ok settings
  else do
    let custom ← settings.custom.toEntries
    pure { settings with custom := .entries (custom.update (.ofEntries extra)) }

/-- The settings for a language from the object of a file, if there is one, and overrides. -/
def ofSources (language : String) (file? : Option (Entries Json)) (overrides : Json) :
    Except Misuse Settings := do
  let base := (defaults.get? language).getD []
  let base ← lay base (file?.getD [])
  let base ← layValue base overrides
  ofLayers base

/-- The entries that settings are kept as: the settings by name, then the custom ones, which also
    replace a setting of their name. -/
def toEntries (s : Settings) : Except Misuse KeyedEntries := do
  let options ← s.serviceOptions.elements
  let custom ← s.custom.toEntries
  let named : Entries Json :=
    [("output_file", s.outputFile), ("package_name", s.packageName),
     ("line_ending", s.lineEnding), ("field_case", s.fieldCase),
     ("add_comments", s.addComments), ("service_options", .arr options)]
  pure ((KeyedEntries.ofEntries named).update custom)

end Settings

end ThriftScala
