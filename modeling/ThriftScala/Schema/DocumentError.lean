/-
  Why a JSON value is not a document.
-/
import ThriftScala.Json.Reader

namespace ThriftScala

/-- Why a document cannot be read.  `place` says in words which part of the document is meant. -/
inductive DocumentError where
  | notAnObject
  | objectExpected (place : String) (got : Json)
  | missing (place key : String)
  | unknownBaseType (name : String)
  | badType (got : Json)
  | badMapType (got : Json)
  | badTypeName (got : Json)
  | unknownTypeKind (kind : String)
  | badConstant (got : Json)
  | badMapConstant (got : Json)
  | idNotInteger (place : String) (got : Json)
  | badRequiredness (place : String) (got : Json)
  | duplicateId (place : String) (id : Int)
  | badStructKind (struct got : Json)
  | enumNumberNotInteger (enum value : Json)
  | fileNotFound (path : String)
  | fileNotJson (path : String) (fault : Json.ReadError)
  | fileUnreadable (path reason : String)
  /-- A list of parts, or the mapping of namespaces, is a value of another kind. -/
  | misuse (m : Misuse)

namespace DocumentError

/-- What the error says; a misuse has no words of its own. -/
def message : DocumentError → String
  | .notAnObject => "Document must be a JSON object"
  | .objectExpected place got => place ++ ": expected an object, got " ++ got.literal
  | .missing place key => place ++ ": missing '" ++ key ++ "'"
  | .unknownBaseType name => "Unknown base type: " ++ name.inQuotes
  | .badType got => "Invalid type description: " ++ got.literal
  | .badMapType got => "Map type needs [key, value], got " ++ got.literal
  | .badTypeName got => "Type name must be a string, got " ++ got.literal
  | .unknownTypeKind kind => "Unknown type kind: " ++ kind.inQuotes
  | .badConstant got => "Invalid constant: " ++ got.literal
  | .badMapConstant got => "Map constant needs [[key, value], ...], got " ++ got.literal
  | .idNotInteger place got => place ++ ": id must be an integer, got " ++ got.literal
  | .badRequiredness place got => place ++ ": invalid requiredness " ++ got.literal
  | .duplicateId place id => place ++ ": duplicate field id " ++ toString id
  | .badStructKind struct got => "struct '" ++ struct.display ++ "': invalid kind " ++ got.literal
  | .enumNumberNotInteger enum value =>
    "enum '" ++ enum.display ++ "': value of " ++ value.display ++ " must be an integer"
  | .fileNotFound path => "File not found: " ++ path
  | .fileNotJson path fault => "Invalid JSON in file " ++ path ++ ": " ++ fault.message
  | .fileUnreadable path reason => "Error reading file " ++ path ++ ": " ++ reason
  | .misuse _ => ""

end DocumentError

end ThriftScala
