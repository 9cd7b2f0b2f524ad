/-
  Types of the schema: the base types, the three containers, and types known by name.

  A name stands for an enum, for a struct (union or exception), or for something that was never
  resolved.  `FieldType.shown` is the form in which messages show a type.
-/
import ThriftScala.Json.Basic
import ThriftScala.Text.Case

namespace ThriftScala

/-- A type without parts. -/
inductive BaseType where
  | void
  | bool
  | byte
  | i16
  | i32
  | i64
  | double
  | string
  | binary
  deriving DecidableEq, Repr

namespace BaseType

/-- All base types. -/
def all : List BaseType := [.void, .bool, .byte, .i16, .i32, .i64, .double, .string, .binary]

/-- The word for the type in a schema. -/
def name : BaseType → String
  | .void => "void"
  | .bool => "bool"
  | .byte => "byte"
  | .i16 => "i16"
  | .i32 => "i32"
  | .i64 => "i64"
  | .double => "double"
  | .string => "string"
  | .binary => "binary"

/-- The base type of a word in a schema. -/
def ofName? (s : String) : Option BaseType := all.find? (·.name = s)

end BaseType

/-- The type of a field, an argument, a constant or a result. -/
inductive FieldType where
  | base (b : BaseType)
  | list (element : FieldType)
  | set (element : FieldType)
  | map (key value : FieldType)
  /-- An enum that the schema declares. -/
  | enum (name : String)
  /-- A struct, union or exception that the schema declares. -/
  | struct (name : String)
  /-- A name that was not resolved. -/
  | reference (name : String)
  deriving DecidableEq, Repr

namespace FieldType

/-- Is it a base type with values? -/
def isPrimitive : FieldType → Bool
  | .base .void => false
  | .base _ => true
  | _ => false

/-- The form in which messages show a type. -/
def shown : FieldType → String
  | .base b => "<BaseType." ++ b.name.raised ++ ": " ++ b.name.inQuotes ++ ">"
  | .list t => "ListType(element_type=" ++ t.shown ++ ")"
  | .set t => "SetType(element_type=" ++ t.shown ++ ")"
  | .map k v => "MapType(key_type=" ++ k.shown ++ ", value_type=" ++ v.shown ++ ")"
  | .enum n => "EnumType(name=" ++ n.inQuotes ++ ")"
  | .struct n => "StructType(name=" ++ n.inQuotes ++ ")"
  | .reference n => "ReferenceType(name=" ++ n.inQuotes ++ ")"

end FieldType

end ThriftScala
