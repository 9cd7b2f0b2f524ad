/-
  Schema types in Scala: type expressions, wire tags, the protocol's methods and zero values.

  The names of the container types and of the type for binary data are settings.  They are shown
  as text inside an expression; only the type for binary data can stand alone, and then it is
  whatever value the setting has (`scalaType`).
-/
import ThriftScala.Scala.Unmapped

namespace ThriftScala.Scala

/-- The Scala names that are settings. -/
structure TypeNames where
  list : Json := .str "Seq"
  set : Json := .str "Set"
  map : Json := .str "Map"
  option : Json := .str "Option"
  binary : Json := .str "ByteBuffer"

namespace TypeNames

/-- The names that a mapping of settings gives, where it gives them. -/
def ofMembers (members : List (String × Json)) : TypeNames :=
  let pick (key : String) (standard : Json) : Json := (members.lookup key).getD standard
  let standard : TypeNames := {}
  { list := pick "list_type" standard.list
    set := pick "set_type" standard.set
    map := pick "map_type" standard.map
    option := pick "option_type" standard.option
    binary := pick "binary_type" standard.binary }

/-- The names that a value of settings gives; a value that counts as nothing gives none. -/
def ofCustom (custom : Json) : Except Misuse TypeNames :=
  if custom.truthy then
    match custom with
    | .obj members => .ok (ofMembers members)
    | _ => .error .noOperation
  else .ok {}

end TypeNames

/-- The expression for a type. -/
def typeText (names : TypeNames) : FieldType → String
  | .base .void => "Unit"
  | .base .bool => "Boolean"
  | .base .byte => "Byte"
  | .base .i16 => "Short"
  | .base .i32 => "Int"
  | .base .i64 => "Long"
  | .base .double => "Double"
  | .base .string => "String"
  | .base .binary => names.binary.display
  | .list t => names.list.display ++ "[" ++ typeText names t ++ "]"
  | .set t => names.set.display ++ "[" ++ typeText names t ++ "]"
  | .map k v => names.map.display ++ "[" ++ typeText names k ++ ", " ++ typeText names v ++ "]"
  | .enum n => n
  | .struct n => n
  | .reference n => n

/-- The type of a value: the expression, or the bare setting for binary data. -/
def scalaType (names : TypeNames) : FieldType → Json
  | .base .binary => names.binary
  | t => .str (typeText names t)

/-- The expression for a type of which there may be no value. -/
def optionType (names : TypeNames) (t : FieldType) : String :=
  names.option.display ++ "[" ++ typeText names t ++ "]"

/-! ## The wire -/

/-- Tags of types on the wire. -/
inductive WireTag where
  | void
  | bool
  | byte
  | double
  | i16
  | i32
  | i64
  | string
  | struct
  | map
  | set
  | list
  deriving DecidableEq, Repr

/-- The name of a tag. -/
def WireTag.name : WireTag → String
  | .void => "VOID"
  | .bool => "BOOL"
  | .byte => "BYTE"
  | .double => "DOUBLE"
  | .i16 => "I16"
  | .i32 => "I32"
  | .i64 => "I64"
  | .string => "STRING"
  | .struct => "STRUCT"
  | .map => "MAP"
  | .set => "SET"
  | .list => "LIST"

/-- The tag of a type.  Binary data travel as texts and enums as their numbers. -/
def wireTag : FieldType → Except Unmapped WireTag
  | .base .void => .ok .void
  | .base .bool => .ok .bool
  | .base .byte => .ok .byte
  | .base .i16 => .ok .i16
  | .base .i32 => .ok .i32
  | .base .i64 => .ok .i64
  | .base .double => .ok .double
  | .base .string => .ok .string
  | .base .binary => .ok .string
  | .struct _ => .ok .struct
  | .enum _ => .ok .i32
  | .map _ _ => .ok .map
  | .set _ => .ok .set
  | .list _ => .ok .list
  | .reference n => Mapping.constType.refuse (.reference n)

/-- What the protocol's methods for a base type are called after `read` or `write`. -/
def methodSuffix? : FieldType → Option String
  | .base .bool => some "Bool"
  | .base .byte => some "Byte"
  | .base .i16 => some "I16"
  | .base .i32 => some "I32"
  | .base .i64 => some "I64"
  | .base .double => some "Double"
  | .base .string => some "String"
  | .base .binary => some "Binary"
  | _ => none

/-- The protocol's method that reads a type. -/
def readMethod (t : FieldType) : Except Unmapped String :=
  match methodSuffix? t with
  | some s => .ok ("read" ++ s)
  | none => Mapping.protocolReadMethod.refuse t

/-- The protocol's method that writes a type. -/
def writeMethod (t : FieldType) : Except Unmapped String :=
  match methodSuffix? t with
  | some s => .ok ("write" ++ s)
  | none => Mapping.protocolWriteMethod.refuse t

/-- The literal for the zero of a base type. -/
def zeroValue (names : TypeNames) : FieldType → Except Unmapped String
  | .base .bool => .ok "false"
  | .base .byte => .ok "0"
  | .base .i16 => .ok "0"
  | .base .i32 => .ok "0"
  | .base .i64 => .ok "0"
  | .base .double => .ok "0.0"
  | .base .string => .ok "\"\""
  | .base .binary => .ok (names.binary.display ++ ".allocate(0)")
  | t => Mapping.zeroValue.refuse t

end ThriftScala.Scala
