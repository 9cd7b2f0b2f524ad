/-
  Scala literals for texts and constants.

  A text is written in printable ASCII: other characters become escapes of four hexadecimal
  digits, those beyond the first plane a pair of them.  Names in constants are written as they
  are; a name that stands alone is the value it was, and a list can only hold texts.
-/
import ThriftScala.Schema.Document

namespace ThriftScala.Scala

/-! ## Texts -/

/-- An escape for one unit of sixteen bits. -/
def unitEscape (n : Nat) : List Char := '\\' :: 'u' :: Text.hexDigits 4 n

/-- One character inside a text literal. -/
def literalChar (c : Char) : List Char :=
  if c = '"' then ['\\', '"']
  else if c = '\\' then ['\\', '\\']
  else if c = '\n' then ['\\', 'n']
  else if c = '\r' then ['\\', 'r']
  else if c = '\t' then ['\\', 't']
  else if c = '\x08' then ['\\', 'b']
  else if c = '\x0c' then ['\\', 'f']
  else if 0x20 ≤ c.toNat ∧ c.toNat < 0x7F then [c]
  else if c.toNat ≤ 0xFFFF then unitEscape c.toNat
  else
    let n := c.toNat - 0x10000
    unitEscape (0xD800 + n / 0x400) ++ unitEscape (0xDC00 + n % 0x400)

/-- The inside of a text literal. -/
def literalChars (cs : List Char) : List Char := cs.flatMap literalChar

/-- The inside of a text literal. -/
def escapeText (s : String) : String := .ofList (literalChars s.toList)

/-- A text literal. -/
def quoteText (s : String) : String := "\"" ++ escapeText s ++ "\""

/-! ## Constants -/

/-- What list and map literals begin with. -/
structure LiteralNames where
  list : String := "List"
  map : String := "Map"

/-- The literal of a double; the numbers without one are named. -/
def doubleText : Double → String
  | .nan => "Double.NaN"
  | .infinite true => "Double.NegativeInfinity"
  | .infinite false => "Double.PositiveInfinity"
  | x => x.write plainLayout

mutual

/-- The literal of a constant: a text, but for a name that stands alone. -/
def literal (names : LiteralNames) : Constant → Except Misuse Json
  | .null => .ok (.str "null")
  | .bool b => .ok (.str (if b then "true" else "false"))
  | .int n => .ok (.str (toString n))
  | .double x => .ok (.str (doubleText x))
  | .str s => .ok (.str (quoteText s))
  | .list elems => do
    let texts ← literalTexts names elems
    pure (.str (names.list ++ "(" ++ String.joinedBy ", " texts ++ ")"))
  | .map pairs => do
    let texts ← pairTexts names pairs
    pure (.str (names.map ++ "(" ++ String.joinedBy ", " texts ++ ")"))
  | .enumValue enum value => .ok (.str (enum.display ++ "." ++ value.display))
  | .identifier name => .ok name

/-- The literals of the elements of a list, which must be texts. -/
def literalTexts (names : LiteralNames) : List Constant → Except Misuse (List String)
  | [] => .ok []
  | c :: cs => do
    let text ← (← literal names c).textOr .wrongKind
    let texts ← literalTexts names cs
    pure (text :: texts)

/-- The literals of the pairs of a map. -/
def pairTexts (names : LiteralNames) : List (Constant × Constant) → Except Misuse (List String)
  | [] => .ok []
  | (k, v) :: ps => do
    let key ← literal names k
    let value ← literal names v
    let texts ← pairTexts names ps
    pure ((key.display ++ " -> " ++ value.display) :: texts)

end

end ThriftScala.Scala
