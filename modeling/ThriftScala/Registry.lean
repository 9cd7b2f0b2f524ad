/-
  Registries of generators by language.

  A language has one class of generators and any number of aliases; all names are kept in lower
  case.  Registering sets the class first and then the aliases one by one, so a registration that
  fails at an alias has set what stands before it: `register` gives the registry after the call
  together with what went wrong.
-/
import ThriftScala.Scala.Generator
import ThriftScala.Settings.Check

namespace ThriftScala

/-- A class of generators, by its name. -/
structure GeneratorClass where
  name : String
  deriving DecidableEq, Repr

/-- Why a registry refuses. -/
inductive RegistryError where
  | notAGeneratorClass
  | aliasIsLanguage (name : String)
  | aliasTaken (name language : String)
  | unknownLanguage (language : String) (available : List String)
  | creationFailed (language : String) (e : SettingsError)
  /-- What is given for settings is a value of a kind that cannot be settings. -/
  | badSettings (got : Json)
  | misuse (m : Misuse)

/-- What an error says; a misuse has no words of its own. -/
def RegistryError.message : RegistryError → String
  | .notAGeneratorClass => "Generator class must inherit from CodeGenerator"
  | .aliasIsLanguage name => "Alias '" ++ name ++ "' conflicts with existing primary language"
  | .aliasTaken name language => "Alias '" ++ name ++ "' already points to '" ++ language ++ "'"
  | .unknownLanguage language available =>
    "No generator registered for language: " ++ language ++ ". Available: "
      ++ String.joinedBy ", " available
  | .creationFailed language e =>
    "Failed to create " ++ language ++ " generator: " ++ e.message
  | .badSettings got => "Invalid config type: <class '" ++ got.kind ++ "'>"
  | .misuse _ => ""

/-- Languages with their classes, and aliases with their languages. -/
structure Registry where
  generators : Entries GeneratorClass := []
  aliases : Entries String := []
  deriving DecidableEq, Repr

/-- Where the settings of a new generator come from. -/
inductive SettingsSource where
  | settings (s : Settings)
  /-- Any other value: nothing, the path of a file, overrides, or a value that does not do. -/
  | value (v : Json)

namespace Registry

/-! ## Registration -/

/-- Why an alias cannot be given to a language, if it cannot. -/
def aliasConflict? (r : Registry) (language name : String) : Option RegistryError :=
  let key := name.lowered
  if r.generators.has key then some (.aliasIsLanguage name)
  else
    match r.aliases.get? key with
    | some target => if target = language then none else some (.aliasTaken name target)
    | none => none

/-- Gives aliases to a language until one is refused.  With `replacing`, none is. -/
def addAliases (r : Registry) (language : String) (replacing : Bool) :
    List String → Registry × Except RegistryError Unit
  | [] => (r, .ok ())
  | name :: names =>
    if name.lowered = language then addAliases r language replacing names
    else
      match if replacing then none else r.aliasConflict? language name with
      | some e => (r, .error e)
      | none =>
        addAliases { r with aliases := r.aliases.set name.lowered language } language replacing
          names

/-- Registers a class for a language.  A language that is there stays as it is unless `replacing`.
    No class stands for something that is no class of generators. -/
def register (r : Registry) (language : String) (class? : Option GeneratorClass)
    (aliases : List String) (replacing : Bool) : Registry × Except RegistryError Unit :=
  match class? with
  | none => (r, .error .notAGeneratorClass)
  | some c =>
    let key := language.lowered
    if r.generators.has key && !replacing then (r, .ok ())
    else addAliases { r with generators := r.generators.set key c } key replacing aliases

/-- Registers a class with aliases that may be any value.  If they are looked at, they are gone
    through as far as they are texts; a value that counts as nothing holds none. -/
def registerWith (r : Registry) (language : String) (class? : Option GeneratorClass)
    (aliases : Json) (replacing : Bool) : Registry × Except RegistryError Unit :=
  let bare := r.register language class? [] replacing
  if class?.isNone || r.generators.has language.lowered && !replacing || !aliases.truthy then bare
  else
    match aliases.elements with
    | .error m => (bare.1, .error (.misuse m))
    | .ok elems =>
      let texts := elems.map fun v => match v with | .str s => some s | _ => none
      let names := (texts.takeWhile (·.isSome)).filterMap id
      match r.register language class? names replacing with
      | (after, .ok ()) =>
        (after, if names.length = elems.length then .ok () else .error (.misuse .noOperation))
      | failed => failed

/-- Takes a language and its aliases out. -/
def unregister (r : Registry) (language : String) : Registry :=
  { generators := r.generators.erase language.lowered
    aliases := r.aliases.filter (·.2 ≠ language.lowered) }

/-! ## Look-up -/

/-- Texts in order. -/
def sorted (names : List String) : List String := names.mergeSort (fun a b => a ≤ b)

/-- The languages, in order. -/
def languages (r : Registry) : List String := sorted r.generators.keys

/-- The language that a name stands for. -/
def resolve (r : Registry) (name : String) : Except RegistryError String :=
  let key := name.lowered
  if r.generators.has key then .ok key
  else
    match r.aliases.get? key with
    | some language => .ok language
    | none => .error (.unknownLanguage name r.languages)

/-- The class of the language that a name stands for.  An alias always stands for a language that
    is registered; were it not, the look-up would be a misuse. -/
def classOf (r : Registry) (name : String) : Except RegistryError GeneratorClass := do
  let language ← r.resolve name
  match r.generators.get? language with
  | some c => pure c
  | none => throw (.misuse .badValue)

/-- The aliases of a language, in order. -/
def aliasesOf (r : Registry) (language : String) : List String :=
  sorted ((r.aliases.filter (·.2 = language.lowered)).map (·.1))

/-- All names of every language, the language itself first. -/
def allNames (r : Registry) : Entries (List String) :=
  r.generators.keys.map fun language => (language, language :: r.aliasesOf language)

/-- Does a name stand for a language? -/
def supports (r : Registry) (name : String) : Bool :=
  r.generators.has name.lowered || r.aliases.has name.lowered

/-! ## Generators -/

/-- The settings for a language from a source. -/
def settingsFor (files : Files) (language : String) :
    SettingsSource → Except RegistryError (Except SettingsError Settings)
  | .settings s => .ok (.ok s)
  | .value .null => .ok (Settings.load files language "" .null)
  | .value (.str path) => .ok (Settings.load files language path .null)
  | .value (.obj members) => .ok (Settings.load files language "" (.obj members))
  | .value v => .error (.badSettings v)

/-- A new generator for the language that a name stands for, and its class. -/
def create (r : Registry) (files : Files) (name : String) (source : SettingsSource) :
    Except RegistryError (GeneratorClass × Scala.Generator) := do
  let c ← r.classOf name
  let language ← r.resolve name
  match ← settingsFor files language source with
  | .ok settings =>
    let g ← (Scala.Generator.ofSettings settings).mapError .misuse
    pure (c, g)
  | .error (.misuse m) => throw (.misuse m)
  | .error e => throw (.creationFailed name e)

/-- What is to be told about a language. -/
structure Info where
  name : String
  className : String
  fileExtension : String
  aliases : List String
  fragments : List String
  deriving DecidableEq, Repr

/-- What is to be told about the language that a name stands for. -/
def info (r : Registry) (files : Files) (name : String) : Except RegistryError Info := do
  let language ← r.resolve name
  let (c, _) ← r.create files language (.value .null)
  pure
    { name := Scala.Generator.languageName
      className := c.name
      fileExtension := Scala.Generator.fileExtension
      aliases := r.aliasesOf language
      fragments := Scala.Generator.fragments.map (·.name) }

/-- The class of the generators for Scala. -/
def scalaClass : GeneratorClass := ⟨"ScalaGenerator"⟩

/-- The registry that everything uses unless it is given another. -/
def builtIn : Registry :=
  (register {} Scala.Generator.languageName (some scalaClass) ["scrooge"] false).1

end Registry

end ThriftScala
