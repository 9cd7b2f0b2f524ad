/-
  Settings that can be used: the checks that settings must pass, and settings from files.
-/
import ThriftScala.Json.Writer
import ThriftScala.Settings.Layers
import ThriftScala.Text.Ident

namespace ThriftScala

/-- The words for the options of services. -/
def serviceOptionWords : List String := ["finagle_client", "finagle_service", "ostrich_server"]

/-- The misuse behind a fault that is none of the file system or the disk. -/
def FileFault.misuse? : FileFault → Option Misuse
  | .zeroInPath => some .badValue
  | .notEncodable => some .notEncodable
  | _ => none

namespace Settings

/-- Is the naming case none of those there are? -/
def fieldCaseProblems (s : Settings) : Except Misuse (List SettingsProblem) :=
  if !s.fieldCase.isAtomic then .error .wrongKind
  else
    match s.namingCase with
    | .ok _ => .ok []
    | .error _ => .ok [.fieldCase s.fieldCase]

/-- Which options of services are none of those there are? -/
def serviceOptionProblems (s : Settings) : Except Misuse (List SettingsProblem) := do
  let isKnown : Json → Bool
    | .str word => serviceOptionWords.contains word
    | _ => false
  pure (((← s.serviceOptions.elements).filter (!isKnown ·)).map .serviceOption)

/-- Is the package no list of identifiers with dots between them? -/
def packageProblems (s : Settings) : Except Misuse (List SettingsProblem) :=
  if !s.packageName.truthy then .ok [.emptyPackage]
  else do
    let name ← s.packageName.textOr .noOperation
    pure (if (Text.splitAt '.' name.toList).all Text.isIdentifier then [] else [.package name])

/-- Everything that is wrong with settings. -/
def problems (s : Settings) : Except Misuse (List SettingsProblem) := do
  let cases ← s.fieldCaseProblems
  let options ← s.serviceOptionProblems
  let packages ← s.packageProblems
  pure (cases ++ options ++ packages)

/-! ## Files -/

/-- The object in a file. -/
def readFile (files : Files) (path : String) : Except SettingsError (Entries Json) := do
  let p := Path.ofText path
  if !(← (files.has p).mapError fun _ => .misuse .nameTooLong) then throw (.fileNotFound p.toText)
  if p.suffix.lowered ≠ ".json" then throw (.fileNotNamedJson p.toText)
  let text ← (files.read p).mapError (.fileUnreadable p.toText)
  match ← (Json.read text).mapError (.fileNotJson p.toText) with
  | .obj members => pure members
  | _ => throw (.fileNotObject p.toText)

/-- Settings for a language, from a file unless its path is empty, and overrides. -/
def get (files : Files) (language : String) (path : String) (overrides : Json) :
    Except SettingsError Settings := do
  let file? ← if path = "" then pure none else (readFile files path).map some
  (ofSources language file? overrides).mapError .misuse

/-- Settings as `get` gives them, if nothing is wrong with them. -/
def load (files : Files) (language : String) (path : String) (overrides : Json) :
    Except SettingsError Settings := do
  let s ← get files language path overrides
  match ← s.problems.mapError .misuse with
  | [] => pure s
  | ps => throw (.problems ps)

/-- Keeps settings in a file. -/
def save (files : Files) (s : Settings) (path : String) : Except SettingsError Files := do
  let p := Path.ofText path
  let es ← s.toEntries.mapError .misuse
  (files.write p (Json.obj es.texts).write).mapError fun fault =>
    (fault.misuse?.map .misuse).getD (.fileUnwritable p.toText fault)

end Settings

end ThriftScala
