/-
  Schema types are mapped to Scala case by case, and some mappings have no rule for some types.
-/
import ThriftScala.Schema.FieldType

namespace ThriftScala.Scala

/-- A mapping from schema to Scala. -/
inductive Mapping where
  | scalaType
  | constType
  | protocolReadMethod
  | protocolWriteMethod
  | zeroValue
  | readValue
  | writeValue
  | constantValue
  deriving DecidableEq, Repr

/-- The name of a mapping in messages. -/
def Mapping.name : Mapping → String
  | .scalaType => "scalaType"
  | .constType => "constType"
  | .protocolReadMethod => "protocolReadMethod"
  | .protocolWriteMethod => "protocolWriteMethod"
  | .zeroValue => "zeroValue"
  | .readValue => "readValue"
  | .writeValue => "writeValue"
  | .constantValue => "constantValue"

/-- A mapping met a value that it has no rule for. -/
structure Unmapped where
  mapping : Mapping
  /-- The value as messages show it. -/
  shown : String
  deriving DecidableEq, Repr

/-- What it says. -/
def Unmapped.message (u : Unmapped) : String := u.mapping.name ++ "#" ++ u.shown

/-- No rule for a type. -/
def Mapping.refuse {α : Type} (m : Mapping) (t : FieldType) : Except Unmapped α :=
  .error ⟨m, t.shown⟩

/-- No rule for a value that is neither a type nor a constant. -/
def Mapping.refuseValue {α : Type} (m : Mapping) (v : Json) : Except Unmapped α :=
  .error ⟨m, v.literal⟩

end ThriftScala.Scala
