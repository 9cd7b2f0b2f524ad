/-
  The models that the fragments of a generated file are filled with.

  Each function makes the model of one part of a document.  First everything is computed that the
  model holds, part by part in the order of the keys; then the names, packages and settings, which
  may be any value, are offered to the model in the same order.
-/
import ThriftScala.Scala.Codec
import ThriftScala.Scala.FieldDecl
import ThriftScala.Scala.Fragments.Services
import ThriftScala.Scala.Fragments.Types
import ThriftScala.Scala.GenerationError

namespace ThriftScala.Scala

/-- Extras of a service beside its interfaces. -/
inductive ServiceOption where
  | finagleClient
  | finagleService
  | ostrichServer
  deriving DecidableEq, Repr

namespace ServiceOption

/-- All options. -/
def all : List ServiceOption := [.finagleClient, .finagleService, .ostrichServer]

/-- The word for an option in settings. -/
def name : ServiceOption → String
  | .finagleClient => "finagle_client"
  | .finagleService => "finagle_service"
  | .ostrichServer => "ostrich_server"

/-- The option of a word in settings. -/
def ofName? (s : String) : Option ServiceOption := all.find? (·.name = s)

/-- Adds what the options need: a server answers through the service class. -/
def close (options : List ServiceOption) : List ServiceOption :=
  all.filter fun o =>
    options.contains o || (o == .finagleService && options.contains .ostrichServer)

/-- The option of a value in settings. -/
def ofJson : Json → Generated ServiceOption
  | .str s =>
    match ofName? s with
    | some o => .ok o
    | none => .error (.unknownServiceOption (.str s))
  | v => .error (.unknownServiceOption v)

/-- The options of a list of values, with what they need. -/
def resolve (options : List Json) : Generated (List ServiceOption) := do
  pure (close (← options.mapM ofJson))

/-- The options of a setting, with what they need. -/
def ofSetting (v : Json) : Generated (List ServiceOption) := do
  resolve (← used v.elements)

end ServiceOption

/-! ## Head of the file -/

/-- The packages to import: those of the includes that differ from `own`, each once. -/
def importedPackages (own : Json) (packages : List Json) : List Json :=
  packages.foldl (fun seen p => if p.same own || seen.any (p.same ·) then seen else seen ++ [p]) []

/-- The model of the head of a file. -/
def headerModel (addComments : Json) (d : Document) : Generated Model := do
  let own := d.targetNamespace
  let imports := importedPackages own (d.includes.map (·.2.targetNamespace))
  let package ← offered "scalaNamespace" own
  let imports ← imports.mapM fun p => do pure [("namespace", ← offered "namespace" p)]
  let comments ← offered "addComments" addComments
  pure [("scalaNamespace", package), ("imports", .sequence imports), ("addComments", comments)]

/-! ## Constants and enums -/

/-- The model of one constant, with the literal of its value. -/
def constModel (names : TypeNames) (c : Const) (value : Json) : Generated Model := do
  let name ← offered "name" c.name
  let type ← offered "type" (scalaType names c.type)
  let value ← offered "value" value
  pure [("name", name), ("type", type), ("value", value)]

/-- The model of the constants. -/
def constsModel (names : TypeNames) (consts : List Const) : Generated Model := do
  let values ← consts.mapM fun c => used (literal {} c.value)
  let models ← (consts.zip values).mapM fun (c, v) => constModel names c v
  pure [("hasConstants", .flag !consts.isEmpty), ("constants", .sequence models)]

/-- The model of a value of an enum, with its name. -/
def enumValueModel (v : EnumValue) (name : String) (last : Bool) : Model :=
  [("name", .text name), ("nameLowerCase", .text name.lowered),
   ("value", .text (toString v.number)), ("last", .flag last)]

/-- The models of the values of an enum, of which the last is marked. -/
def enumValueModels : List (EnumValue × String) → List Model
  | [] => []
  | [(v, name)] => [enumValueModel v name true]
  | (v, name) :: vs => enumValueModel v name false :: enumValueModels vs

/-- The model of an enum. -/
def enumModel (e : EnumDef) : Generated Model := do
  let names ← e.values.mapM fun v => used (v.name.textOr .noOperation)
  let name ← offered "enum_name" e.name
  pure [("enum_name", name), ("values", .sequence (enumValueModels (e.values.zip names)))]

/-- The model of all enums. -/
def enumsModel (enums : List EnumDef) : Generated Model := do
  let models ← enums.mapM enumModel
  pure [("hasEnums", .flag !enums.isEmpty), ("enums", .sequence models),
    ("enum", .fragment Fragments.enum)]

/-! ## Structs -/

/-- When a field is written, and what is written. -/
def writeGuard (f : Field) (accessor : String) : String × String :=
  if f.isOptional then (accessor ++ ".isDefined", accessor ++ ".get")
  else if isNullable f then (accessor ++ " ne null", accessor)
  else ("true", accessor)

/-- The model of a field. -/
def fieldModel (names : TypeNames) (f : Field) : Generated Model := do
  let name ← used (f.name.textOr .wrongKind)
  let wireName ← used (f.wireName.textOr .wrongKind)
  let accessor := quoteKeyword name
  let itemName := name ++ "_item"
  let read ← mapped (readValue inputProtocol toString 0 f.type)
  let (guard, item) := writeGuard f accessor
  let tag ← mapped (wireTag f.type)
  let write ← mapped (writeValue outputProtocol toString 0 itemName f.type)
  let type ← offered "fieldType" (fieldType names f)
  pure
    [("id", .text (toString f.id)),
     ("name", .text accessor),
     ("localName", .text (name ++ "_")),
     ("wireName", .text (escapeText wireName)),
     ("fieldConst", .text (fieldConstName name)),
     ("constType", .text tag.name),
     ("fieldType", type),
     ("defaultReadValue", .text (defaultReadValue f)),
     ("readValue", .text (if f.isOptional then "Some(" ++ read ++ ")" else read)),
     ("writeGuard", .text guard),
     ("writeItem", .text item),
     ("setFlag", .text (name ++ "_isSet")),
     ("itemName", .text itemName),
     ("writeValue", .text write),
     ("required", .flag f.isRequired),
     ("checkNotNull", .flag (f.isRequired && isNullable f))]

/-- What a struct extends. -/
def parentType (s : Struct) : String :=
  if s.isException then "Exception with ThriftStruct" else "ThriftStruct"

/-- The model of a struct. -/
def structModel (names : TypeNames) (s : Struct) : Generated Model := do
  let fields ← s.fields.mapM (fieldModel names)
  let args ← used (fieldArgs names s.fields)
  let constructor ← used (constructorArgs s.fields)
  let name ← offered "structName" s.name
  pure
    [("structName", name),
     ("parentType", .text (parentType s)),
     ("fields", .sequence fields),
     ("fieldArgs", .text args),
     ("constructorArgs", .text constructor)]

/-! ## Services -/

/-- The struct of the arguments of a function. -/
def argsStruct (f : ServiceFunction) : Struct :=
  { name := .str (f.name.display ++ "_args"), fields := f.args }

/-- The field of the result of a function, unless it gives nothing back. -/
def successField? (f : ServiceFunction) : Option Field :=
  if f.isVoid then none
  else some { id := 0, name := .str "success", type := f.returnType, requiredness := .optional }

/-- A declared exception as a field of the result, which need not be there. -/
def thrownField (f : Field) : Field := { f with requiredness := .optional, default? := none }

/-- The struct of what a function gives back: its result and its exceptions. -/
def resultStruct (f : ServiceFunction) : Struct :=
  { name := .str (f.name.display ++ "_result")
    fields := (successField? f).toList ++ f.throws.map thrownField }

/-- The model of a declared exception in a function. -/
def throwModel (names : TypeNames) (f : Field) (name : String) : Generated Model := do
  let type ← offered "type" (scalaType names f.type)
  pure [("name", .text (quoteKeyword name)), ("type", type)]

/-- The model of a function. -/
def functionModel (names : TypeNames) (f : ServiceFunction) : Generated Model := do
  let name ← used (f.name.textOr .wrongKind)
  let wireName ← used (f.wireName.textOr .wrongKind)
  let args ← used (fieldArgs names f.args)
  let argsModel ← structModel names (argsStruct f)
  let resultModel ← structModel names (resultStruct f)
  let throwNames ← f.throws.mapM fun t => used (t.name.textOr .wrongKind)
  let returnType ← offered "returnType" (scalaType names f.returnType)
  let throws ← (f.throws.zip throwNames).mapM fun (t, name) => throwModel names t name
  pure
    [("name", .text (quoteKeyword name)),
     ("wireName", .text (escapeText wireName)),
     ("fieldArgs", .text args),
     ("returnType", returnType),
     ("hasReturn", .flag !f.isVoid),
     ("oneway", .text (if f.oneway then "true" else "false")),
     ("argsName", .text (name ++ "_args")),
     ("resultName", .text (name ++ "_result")),
     ("argNames", .text (argumentNames "" f.args)),
     ("argAccessors", .text (argumentNames "args." f.args)),
     ("argsStruct", .model argsModel),
     ("resultStruct", .model resultModel),
     ("throws", .sequence throws)]

/-- Does the service extend another? -/
def hasParent (s : Service) : Bool :=
  match s.parent with
  | .null => false
  | _ => true

/-- The model of a service with its options. -/
def serviceModel (names : TypeNames) (options : List ServiceOption) (s : Service) :
    Generated Model := do
  let functions ← s.functions.mapM (functionModel names)
  let name ← offered "serviceName" s.name
  let parent ← offered "parent" (if s.parent.truthy then s.parent else .str "")
  pure
    [("serviceName", name),
     ("hasParent", .flag (hasParent s)),
     ("parent", parent),
     ("functions", .sequence functions),
     ("struct", .fragment Fragments.struct),
     ("finagleClient", .fragment Fragments.finagleClient),
     ("finagleService", .fragment Fragments.finagleService),
     ("ostrichServer", .fragment Fragments.ostrichServer),
     ("withFinagleClient", .flag (options.contains .finagleClient)),
     ("withFinagleService", .flag (options.contains .finagleService)),
     ("withOstrichServer", .flag (options.contains .ostrichServer))]

end ThriftScala.Scala
