/-
  The JSON layout of documents.

  Each part of a document has a reader from JSON, `FieldType.ofJson`, `Constant.ofJson`,
  `Field.ofJson` and so on up to `Document.ofJson`.  The checks of one part are made in the order
  in which they are written here, and the first that fails is the error of the whole.  Documents
  hold documents, types hold types and constants hold constants, so those three readers follow the
  JSON value.
-/
import ThriftScala.Schema.Document
import ThriftScala.Schema.DocumentError

namespace ThriftScala

/-- What a reader of a part of a document gives. -/
abbrev Loaded (α : Type) := Except DocumentError α

namespace Layout

/-- A misuse as an error of the document. -/
def orMisuse {α : Type} : Except Misuse α → Loaded α
  | .ok a => .ok a
  | .error m => .error (.misuse m)

/-- The value that an object must have under a key. -/
def require (place : String) (node : Json) (key : String) : Loaded Json :=
  match node with
  | .obj members =>
    match members.lookup key with
    | some v => .ok v
    | none => .error (.missing place key)
  | v => .error (.objectExpected place v)

/-- The value that an object may have under a key. -/
def optional? (node : Json) (key : String) : Option Json :=
  match node with
  | .obj members => members.lookup key
  | _ => none

/-- The parts listed under a key; none if the key is missing. -/
def partsUnder (node : Json) (key : String) : Loaded (List Json) :=
  match optional? node key with
  | none => .ok []
  | some v => orMisuse v.elements

/-- The integer that a value is.  Truth values are no integers. -/
def integer? : Json → Option Int
  | .int n => some n
  | _ => none

end Layout

open Layout

/-! ## Types -/

/-- A type: a text for a base type, else an object with one key that tells the kind. -/
def FieldType.ofJson : Json → Loaded FieldType
  | .str s =>
    match BaseType.ofName? s with
    | some b => .ok (.base b)
    | none => .error (.unknownBaseType s)
  | .obj [("list", arg)] => (FieldType.ofJson arg).map .list
  | .obj [("set", arg)] => (FieldType.ofJson arg).map .set
  | .obj [("map", .arr [key, value])] => do
    let key ← FieldType.ofJson key
    let value ← FieldType.ofJson value
    pure (.map key value)
  | .obj [("map", arg)] => .error (.badMapType arg)
  | .obj [("enum", .str name)] => .ok (.enum name)
  | .obj [("struct", .str name)] => .ok (.struct name)
  | .obj [("ref", .str name)] => .ok (.reference name)
  | .obj [(kind, arg)] =>
    if kind = "enum" ∨ kind = "struct" ∨ kind = "ref" then .error (.badTypeName arg)
    else .error (.unknownTypeKind kind)
  | v => .error (.badType v)

/-! ## Constants -/

/-- Is the value a list of two? -/
def Layout.isPair : Json → Bool
  | .arr [_, _] => true
  | _ => false

mutual

/-- A constant: a JSON value stands for itself, except that the three kinds that JSON lacks are
    objects with keys of their own. -/
def Constant.ofJson : Json → Loaded Constant
  | .null => .ok .null
  | .bool b => .ok (.bool b)
  | .int n => .ok (.int n)
  | .double x => .ok (.double x)
  | .str s => .ok (.str s)
  | .arr elems => (Constant.listOfJson elems).map .list
  | .obj [("map", .arr pairs)] =>
    if pairs.all isPair then (Constant.pairsOfJson pairs).map .map
    else .error (.badMapConstant (.arr pairs))
  | .obj [("map", v)] => .error (.badMapConstant v)
  | .obj [("enum", enum), ("value", value)] => .ok (.enumValue enum value)
  | .obj [("value", value), ("enum", enum)] => .ok (.enumValue enum value)
  | .obj [("identifier", name)] => .ok (.identifier name)
  | v => .error (.badConstant v)

/-- The elements of a list constant. -/
def Constant.listOfJson : List Json → Loaded (List Constant)
  | [] => .ok []
  | v :: vs => do
    let c ← Constant.ofJson v
    let cs ← Constant.listOfJson vs
    pure (c :: cs)

/-- The pairs of a map constant. -/
def Constant.pairsOfJson : List Json → Loaded (List (Constant × Constant))
  | [] => .ok []
  | .arr [k, v] :: ps => do
    let k ← Constant.ofJson k
    let v ← Constant.ofJson v
    let cs ← Constant.pairsOfJson ps
    pure ((k, v) :: cs)
  | p :: _ => .error (.badMapConstant p)

end

/-! ## Fields and what has them -/

/-- A word of a fixed choice under a key, with a default; a value that is no such word is given to
    `wrong`. -/
def Layout.choiceUnder {α : Type} (node : Json) (key : String) (standard : α)
    (ofName? : String → Option α) (wrong : Json → DocumentError) : Loaded α :=
  match optional? node key with
  | none => .ok standard
  | some (.str s) =>
    match ofName? s with
    | some a => .ok a
    | none => .error (wrong (.str s))
  | some v => .error (wrong v)

/-- A field; `place` names the list that it stands in. -/
def Field.ofJson (place : String) (node : Json) : Loaded Field := do
  let name ← require place node "name"
  let place := place ++ " '" ++ name.display ++ "'"
  let idValue ← require place node "id"
  let id ←
    match integer? idValue with
    | some n => pure n
    | none => throw (.idNotInteger place idValue)
  let requiredness ←
    choiceUnder node "requiredness" .default Requiredness.ofName? (.badRequiredness place)
  let type ← FieldType.ofJson (← require place node "type")
  let default? ←
    match optional? node "default" with
    | none => pure none
    | some v => (Constant.ofJson v).map some
  pure { id, name, type, requiredness, default? }

/-- The first field whose id an earlier field has; `seen` are the ids before. -/
def Field.duplicateId? (seen : List Int) : List Field → Option Int
  | [] => none
  | f :: fs => if f.id ∈ seen then some f.id else duplicateId? (f.id :: seen) fs

/-- The fields listed under a key; their ids must differ. -/
def Field.listOfJson (place : String) (node : Json) (key : String) : Loaded (List Field) := do
  let fields ← (← partsUnder node key).mapM (Field.ofJson place)
  match Field.duplicateId? [] fields with
  | some id => throw (.duplicateId place id)
  | none => pure fields

/-- A struct, union or exception. -/
def Struct.ofJson (node : Json) : Loaded Struct := do
  let name ← require "struct" node "name"
  let kind ← choiceUnder node "kind" .struct StructKind.ofName? (.badStructKind name)
  let fields ← Field.listOfJson ("struct '" ++ name.display ++ "'") node "fields"
  pure { name, fields, kind }

/-- A value of the enum called `enum`. -/
def EnumValue.ofJson (enum : Json) (node : Json) : Loaded EnumValue := do
  let place := "enum '" ++ enum.display ++ "'"
  let name ← require place node "name"
  let value ← require place node "value"
  match integer? value with
  | some number => pure { name, number }
  | none => throw (.enumNumberNotInteger enum name)

/-- An enum. -/
def EnumDef.ofJson (node : Json) : Loaded EnumDef := do
  let name ← require "enum" node "name"
  let values ← (← partsUnder node "values").mapM (EnumValue.ofJson name)
  pure { name, values }

/-- A function of the service called `service`. -/
def ServiceFunction.ofJson (service : Json) (node : Json) : Loaded ServiceFunction := do
  let name ← require ("service '" ++ service.display ++ "' function") node "name"
  let place := "function '" ++ service.display ++ "." ++ name.display ++ "'"
  let returnType ← FieldType.ofJson ((optional? node "return_type").getD (.str "void"))
  let args ← Field.listOfJson place node "args"
  let throws ← Field.listOfJson place node "throws"
  let oneway := ((optional? node "oneway").getD (.bool false)).truthy
  pure { name, returnType, args, throws, oneway }

/-- A service. -/
def Service.ofJson (node : Json) : Loaded Service := do
  let name ← require "service" node "name"
  let functions ← (← partsUnder node "functions").mapM (ServiceFunction.ofJson name)
  pure { name, functions, parent := (optional? node "parent").getD .null }

/-- A constant that a document declares. -/
def Const.ofJson (node : Json) : Loaded Const := do
  let name ← require "const" node "name"
  let type ← FieldType.ofJson (← require "const" node "type")
  let value ← Constant.ofJson (← require "const" node "value")
  pure { name, type, value }

/-! ## Documents -/

/-- The packages of a document by language. -/
def Layout.namespacesOf (node : Json) : Loaded (List (String × Json)) :=
  match optional? node "namespaces" with
  | none => .ok []
  | some (.obj members) => .ok members
  | some _ => .error (.misuse .noOperation)

mutual

/-- A document; `defaultNamespace` is the package of those parts that name none. -/
def Document.ofJson (defaultNamespace : Json) : Json → Loaded Document
  | .obj members => do
    let node := Json.obj members
    let namespaces ← namespacesOf node
    let includes ← Document.includesAmong defaultNamespace members
    let consts ← (← partsUnder node "consts").mapM Const.ofJson
    let enums ← (← partsUnder node "enums").mapM EnumDef.ofJson
    let structs ← (← partsUnder node "structs").mapM Struct.ofJson
    let services ← (← partsUnder node "services").mapM Service.ofJson
    pure { namespaces, includes, consts, enums, structs, services, defaultNamespace }
  | _ => .error .notAnObject

/-- The includes among the members of a document. -/
def Document.includesAmong (defaultNamespace : Json) :
    List (String × Json) → Loaded (List (Json × Document))
  | [] => .ok []
  | (key, v) :: members =>
    if key = "includes" then Document.includesOf defaultNamespace v
    else Document.includesAmong defaultNamespace members

/-- The includes of a list; of another value, the elements are texts and so no includes. -/
def Document.includesOf (defaultNamespace : Json) : Json → Loaded (List (Json × Document))
  | .arr nodes => Document.includeList defaultNamespace nodes
  | v => do
    match ← orMisuse v.elements with
    | [] => pure []
    | node :: _ => throw (.objectExpected "include" node)

/-- The includes of the elements of a list. -/
def Document.includeList (defaultNamespace : Json) : List Json → Loaded (List (Json × Document))
  | [] => .ok []
  | node :: nodes => do
    let i ← Document.includeOf defaultNamespace node
    let is ← Document.includeList defaultNamespace nodes
    pure (i :: is)

/-- One include: its path and its document. -/
def Document.includeOf (defaultNamespace : Json) : Json → Loaded (Json × Document)
  | .obj members => do
    let path ← require "include" (.obj members) "path"
    let document ←
      Document.amongMembers defaultNamespace ("include '" ++ path.display ++ "'") members
    pure (path, document)
  | v => .error (.objectExpected "include" v)

/-- The document among the members of an include. -/
def Document.amongMembers (defaultNamespace : Json) (place : String) :
    List (String × Json) → Loaded Document
  | [] => .error (.missing place "document")
  | (key, v) :: members =>
    if key = "document" then Document.ofJson defaultNamespace v
    else Document.amongMembers defaultNamespace place members

end

end ThriftScala
