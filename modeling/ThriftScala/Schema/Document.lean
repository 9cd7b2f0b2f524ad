/-
  Documents: what one schema file declares, and the change of its names to a naming case.

  A document is taken as it was read.  Names of fields, functions, structs and so on are whatever
  value stood in the schema, for nothing there asks them to be texts; what needs a text says so
  when it meets another value.

  `normalize` converts the names of fields, arguments, declared exceptions and functions and keeps
  the spelling of the schema beside them, because that spelling goes to the wire: `wireName` of a
  normalized field or function is what it was before.
-/
import ThriftScala.Naming
import ThriftScala.Schema.FieldType

namespace ThriftScala

/-- A value that a schema gives: for a constant, or as the default of a field. -/
inductive Constant where
  | null
  | bool (b : Bool)
  | int (n : Int)
  | double (x : Double)
  | str (s : String)
  | list (elems : List Constant)
  | map (pairs : List (Constant × Constant))
  /-- A value of an enum, by the names of both. -/
  | enumValue (enum value : Json)
  /-- A constant by its name. -/
  | identifier (name : Json)
  deriving Inhabited

/-- Whether a field has to be there. -/
inductive Requiredness where
  | required
  | optional
  | default
  deriving DecidableEq, Repr

namespace Requiredness

/-- The word for it in a schema. -/
def name : Requiredness → String
  | .required => "required"
  | .optional => "optional"
  | .default => "default"

/-- The requiredness of a word in a schema. -/
def ofName? (s : String) : Option Requiredness :=
  [Requiredness.required, .optional, .default].find? (·.name = s)

end Requiredness

/-- A field of a struct, an argument of a function, or an exception that a function declares. -/
structure Field where
  id : Int
  name : Json
  type : FieldType
  requiredness : Requiredness := .default
  default? : Option Constant := none
  /-- The spelling in the schema, kept when the name is converted. -/
  spelling? : Option String := none

/-- A constant that a schema declares. -/
structure Const where
  name : Json
  type : FieldType
  value : Constant

/-- A value of an enum. -/
structure EnumValue where
  name : Json
  number : Int

/-- An enum with its values in order. -/
structure EnumDef where
  name : Json
  values : List EnumValue

/-- What a struct was declared as. -/
inductive StructKind where
  | struct
  | union
  | exception
  deriving DecidableEq, Repr

namespace StructKind

/-- The word for it in a schema. -/
def name : StructKind → String
  | .struct => "struct"
  | .union => "union"
  | .exception => "exception"

/-- The kind of a word in a schema. -/
def ofName? (s : String) : Option StructKind :=
  [StructKind.struct, .union, .exception].find? (·.name = s)

end StructKind

/-- A struct, union or exception. -/
structure Struct where
  name : Json
  fields : List Field := []
  kind : StructKind := .struct

/-- A function of a service. -/
structure ServiceFunction where
  name : Json
  returnType : FieldType
  args : List Field := []
  throws : List Field := []
  oneway : Bool := false
  /-- The spelling in the schema, kept when the name is converted. -/
  spelling? : Option String := none

/-- A service. -/
structure Service where
  name : Json
  functions : List ServiceFunction := []
  /-- The service that it extends, or nothing. -/
  parent : Json := .null

/-- What one schema file declares, with the documents that it includes. -/
structure Document where
  /-- The package of each target language. -/
  namespaces : List (String × Json) := []
  /-- Paths and documents of the included files. -/
  includes : List (Json × Document) := []
  consts : List Const := []
  enums : List EnumDef := []
  structs : List Struct := []
  services : List Service := []
  /-- The package where the document names none. -/
  defaultNamespace : Json

/-- The package where nobody names one. -/
def standardNamespace : String := "thrift"

/-! ## Wire names -/

/-- The spelling that is kept, unless it is missing or empty; else the name itself. -/
def wireNameOf (spelling : Option String) (name : Json) : Json :=
  match spelling with
  | some s => if s = "" then name else .str s
  | none => name

/-- The name of a field on the wire. -/
def Field.wireName (f : Field) : Json := wireNameOf f.spelling? f.name

/-- The name of a function on the wire. -/
def ServiceFunction.wireName (f : ServiceFunction) : Json := wireNameOf f.spelling? f.name

/-- Is the field declared optional? -/
def Field.isOptional (f : Field) : Bool := f.requiredness == .optional

/-- Is the field declared required? -/
def Field.isRequired (f : Field) : Bool := f.requiredness == .required

/-- Does the function give nothing back? -/
def ServiceFunction.isVoid (f : ServiceFunction) : Bool := f.returnType == .base .void

/-- Is the struct declared as an exception? -/
def Struct.isException (s : Struct) : Bool := s.kind == .exception

/-! ## The package of a document -/

/-- The package that the document names for a language. -/
def Document.namespaceFor (d : Document) (language : String) : Option Json :=
  d.namespaces.lookup language

/-- The first that counts as present: the package for Scala, the one for Java, the default one. -/
def Document.targetNamespace (d : Document) : Json :=
  let present (v : Option Json) : Option Json := v.filter (·.truthy)
  (present (d.namespaceFor "scala")
    <|> present (d.namespaceFor "java")).getD d.defaultNamespace

/-! ## Conversion of names -/

/-- The spelling that is kept by a conversion that succeeded, so that the name was a text. -/
def keptSpelling (spelling : Option String) (name : Json) : Option String :=
  match wireNameOf spelling name with
  | .str s => some s
  | _ => none

/-- The field with its name in a case. -/
def Field.normalize (case : NamingCase) (f : Field) : Except Misuse Field := do
  let name ← case.convertName f.name
  pure { f with name := .str name, spelling? := keptSpelling f.spelling? f.name }

/-- The struct with its field names in a case. -/
def Struct.normalize (case : NamingCase) (s : Struct) : Except Misuse Struct := do
  let fields ← s.fields.mapM (·.normalize case)
  pure { s with fields }

/-- The function with its name and those of its arguments and exceptions in a case. -/
def ServiceFunction.normalize (case : NamingCase) (f : ServiceFunction) :
    Except Misuse ServiceFunction := do
  let name ← case.convertName f.name
  let args ← f.args.mapM (·.normalize case)
  let throws ← f.throws.mapM (·.normalize case)
  pure { f with
    name := .str name, spelling? := keptSpelling f.spelling? f.name, args, throws }

/-- The service with its function names in a case. -/
def Service.normalize (case : NamingCase) (s : Service) : Except Misuse Service := do
  let functions ← s.functions.mapM (·.normalize case)
  pure { s with functions }

/-- The document with its field and function names in a case.  Names of types, enums and constants
    stay, for other documents and constants refer to them, and so do the included documents. -/
def Document.normalize (case : NamingCase) (d : Document) : Except Misuse Document := do
  let structs ← d.structs.mapM (·.normalize case)
  let services ← d.services.mapM (·.normalize case)
  pure { d with structs, services }

end ThriftScala
