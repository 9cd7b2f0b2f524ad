/-
  JSON text of a value, laid out over lines with two blanks for each level.

  Characters outside ASCII are written as they are; only the quote, the backslash and controls are
  escaped.  Empty lists and objects stay on their line.
-/
import ThriftScala.Json.Basic

namespace ThriftScala.Json

/-- One character inside a JSON text literal. -/
def escapedChar (c : Char) : List Char :=
  if c = '"' then ['\\', '"']
  else if c = '\\' then ['\\', '\\']
  else if c = '\n' then ['\\', 'n']
  else if c = '\r' then ['\\', 'r']
  else if c = '\t' then ['\\', 't']
  else if c = '\x08' then ['\\', 'b']
  else if c = '\x0c' then ['\\', 'f']
  else if c.toNat < 0x20 then '\\' :: 'u' :: Text.hexDigits 4 c.toNat
  else [c]

/-- A JSON text literal. -/
def writeText (s : String) : String := .ofList ('"' :: s.toList.flatMap escapedChar ++ ['"'])

/-- Doubles in JSON text, with the names of the numbers that JSON itself lacks. -/
def jsonLayout : DecimalLayout := { plainLayout with nanText := "NaN", infinityText := "Infinity" }

/-- A line break and the blanks of a level. -/
def lineBreak (level : Nat) : String := .ofList ('\n' :: List.replicate (2 * level) ' ')

mutual

/-- The JSON text of a value that stands at a level. -/
def writeAt (level : Nat) : Json → String
  | .null => "null"
  | .bool true => "true"
  | .bool false => "false"
  | .int n => toString n
  | .double x => x.write jsonLayout
  | .str s => writeText s
  | .arr [] => "[]"
  | .arr (v :: vs) =>
    "[" ++ lineBreak (level + 1)
      ++ String.joinedBy ("," ++ lineBreak (level + 1)) (writeElems (level + 1) (v :: vs))
      ++ lineBreak level ++ "]"
  | .obj [] => "\x7b\x7d"
  | .obj (m :: ms) =>
    "\x7b" ++ lineBreak (level + 1)
      ++ String.joinedBy ("," ++ lineBreak (level + 1)) (writeMembers (level + 1) (m :: ms))
      ++ lineBreak level ++ "\x7d"

/-- The JSON texts of the elements of a list. -/
def writeElems (level : Nat) : List Json → List String
  | [] => []
  | v :: vs => writeAt level v :: writeElems level vs

/-- The JSON texts of the members of an object. -/
def writeMembers (level : Nat) : List (String × Json) → List String
  | [] => []
  | (k, v) :: ms => (writeText k ++ ": " ++ writeAt level v) :: writeMembers level ms

end

/-- The JSON text of a value. -/
def write (v : Json) : String := writeAt 0 v

end ThriftScala.Json
