/-
  Declarations of fields: types, defaults and parameter lists of structs and functions.
-/
import ThriftScala.Scala.Keyword
import ThriftScala.Scala.Literal
import ThriftScala.Scala.TypeExpr

namespace ThriftScala.Scala

/-- The value of an optional field that is absent. -/
def absentValue : String := "None"

/-- The value that a field of a base type holds before it is read; others hold a null. -/
def readDefault? : FieldType → Option String
  | .base .bool => some "false"
  | .base .byte => some "0"
  | .base .i16 => some "0"
  | .base .i32 => some "0"
  | .base .i64 => some "0"
  | .base .double => some "0.0"
  | _ => none

/-- The declared type of a field. -/
def fieldType (names : TypeNames) (f : Field) : Json :=
  if f.isOptional then .str (optionType names f.type) else scalaType names f.type

/-- The default where a field is declared: the one of the schema, else absence for an optional
    field, else none.  A name in the schema that is no name at all gives no default either. -/
def defaultFieldValue (f : Field) : Except Misuse (Option Json) :=
  match f.default? with
  | some c => do
    match ← literal {} c with
    | .null => pure (if f.isOptional then some (.str ("Some(" ++ Json.null.display ++ ")")) else none)
    | value => pure (some (if f.isOptional then .str ("Some(" ++ value.display ++ ")") else value))
  | none => pure (if f.isOptional then some (.str absentValue) else none)

/-- The value that a field holds until it is read.  Defaults of the schema do not matter here. -/
def defaultReadValue (f : Field) : String :=
  if f.isOptional then absentValue else (readDefault? f.type).getD "null"

/-- Does the field hold a reference that may be null? -/
def isNullable (f : Field) : Bool := !f.isOptional && (readDefault? f.type).isNone

/-- A field as a parameter. -/
def fieldParam (names : TypeNames) (f : Field) : Except Misuse String := do
  let param := escapeIdentifier f.name.display ++ ": " ++ (fieldType names f).display
  match ← defaultFieldValue f with
  | some value => pure (param ++ " = " ++ value.display)
  | none => pure param

/-- Fields as a list of parameters. -/
def fieldArgs (names : TypeNames) (fields : List Field) : Except Misuse String := do
  pure (String.joinedBy ", " (← fields.mapM (fieldParam names)))

/-- The names of fields as arguments, each with a text in front. -/
def argumentNames (lead : String) (fields : List Field) : String :=
  String.joinedBy ", " (fields.map fun f => lead ++ escapeIdentifier f.name.display)

/-- The variable of the decoder that holds a field. -/
def localName (f : Field) : Except Misuse String := do
  pure ((← f.name.textOr .wrongKind) ++ "_")

/-- The variables of the decoder as arguments. -/
def constructorArgs (fields : List Field) : Except Misuse String := do
  pure (String.joinedBy ", " (← fields.mapM localName))

end ThriftScala.Scala
