/-
  Scala identifiers: reserved words, and names in backticks, which may be any text.
-/
import ThriftScala.Json.Basic
import ThriftScala.Text.Case

namespace ThriftScala.Scala

/-- The reserved words of Scala. -/
def reservedWords : List String :=
  ["abstract", "case", "catch", "class", "def", "do", "else", "extends", "false", "final",
   "finally", "for", "forSome", "if", "implicit", "import", "lazy", "match", "new", "null",
   "object", "override", "package", "private", "protected", "return", "sealed", "super", "this",
   "throw", "trait", "true", "try", "type", "val", "var", "while", "with", "yield"]

/-- Is the name a reserved word? -/
def isReserved (name : String) : Bool := reservedWords.contains name

/-- The name in backticks. -/
def escapeIdentifier (name : String) : String := "`" ++ name ++ "`"

/-- The name, in backticks if it is a reserved word. -/
def quoteKeyword (name : String) : String :=
  if isReserved name then escapeIdentifier name else name

/-- The name of the constant that holds the descriptor of a field. -/
def fieldConstName (name : String) : String := name.raised ++ "_FIELD_DESC"

end ThriftScala.Scala
