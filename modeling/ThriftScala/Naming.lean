/-
  Naming cases.

  A name is cut into words at its underscores; an underscore run counts once, and leading
  underscores are kept in camel case.  Only the first letter of a word changes, except that the
  snake cases also break between a small letter or digit and a capital, and change all letters.
  The letter cases are those of Unicode, so one letter may become several.

  All conversions work on lists of characters.  `NamingCase.convert` is the entry for strings, and
  `NamingCase.convertName` for names that may be any JSON value.
-/
import ThriftScala.Json.Basic
import ThriftScala.Text.Blank
import ThriftScala.Text.Case

namespace ThriftScala

/-- A way to write names of several words. -/
inductive NamingCase where
  /-- `userName` -/
  | camel
  /-- `UserName` -/
  | pascal
  /-- `user_name` -/
  | snake
  /-- `USER_NAME` -/
  | screamingSnake
  deriving DecidableEq, Repr

namespace NamingCase

/-- All cases, in the order in which they are listed. -/
def all : List NamingCase := [.camel, .pascal, .snake, .screamingSnake]

/-- The word for a case in settings. -/
def name : NamingCase → String
  | .camel => "camel"
  | .pascal => "pascal"
  | .snake => "snake"
  | .screamingSnake => "screaming_snake"

/-- The case of a word in settings. -/
def ofName? (s : String) : Option NamingCase := all.find? (·.name = s)

/-! ## Conversions of texts -/

/-- The words of a name: its pieces between underscores, without the empty ones. -/
def words (cs : List Char) : List (List Char) := (Text.splitAt '_' cs).filter (!·.isEmpty)

/-- Lowers the first letter. -/
def lowerFirst : List Char → List Char
  | [] => []
  | c :: r => Text.lowerChar c ++ r

/-- Raises the first letter. -/
def raiseFirst : List Char → List Char
  | [] => []
  | c :: r => Text.upperChar c ++ r

/-- Camel case.  A name of underscores alone has no word and stays. -/
def toCamel (cs : List Char) : List Char :=
  match words cs with
  | [] => cs
  | w :: ws => cs.takeWhile (· == '_') ++ lowerFirst w ++ ws.flatMap raiseFirst

/-- Pascal case: camel case without its leading underscores and with a capital. -/
def toPascal (cs : List Char) : List Char := raiseFirst ((toCamel cs).dropWhile (· == '_'))

/-- Puts an underscore between a small letter or digit and a capital after it (ASCII). -/
def breakWords : List Char → List Char
  | c :: d :: r =>
    if (c.isLower || c.isDigit) && d.isUpper then c :: '_' :: breakWords (d :: r)
    else c :: breakWords (d :: r)
  | cs => cs

/-- Writes every run of underscores as one. -/
def collapse : List Char → List Char
  | '_' :: '_' :: r => collapse ('_' :: r)
  | c :: r => c :: collapse r
  | [] => []

/-- Snake case; hyphens count as underscores. -/
def toSnake (cs : List Char) : List Char :=
  let broken := breakWords (cs.map fun c => if c = '-' then '_' else c)
  Text.trimWhile (· == '_') (collapse (Text.lower broken))

/-- A name in a case. -/
def convertChars : NamingCase → List Char → List Char
  | .camel => toCamel
  | .pascal => toPascal
  | .snake => toSnake
  | .screamingSnake => fun cs => Text.upper (toSnake cs)

/-- A name in a case. -/
def convert (case : NamingCase) (name : String) : String := .ofList (case.convertChars name.toList)

/-! ## Conversions of names that may be any value -/

/-- What goes wrong when a value that is not a text is converted.  The first two cases ask for its
    length before anything else, the others for a replacement of characters. -/
def misuseOf : NamingCase → Json → Misuse
  | .camel, .arr _ | .camel, .obj _ | .pascal, .arr _ | .pascal, .obj _ => .noOperation
  | .camel, _ | .pascal, _ => .wrongKind
  | .snake, _ | .screamingSnake, _ => .noOperation

/-- A name in a case; a name that is not a text has none. -/
def convertName (case : NamingCase) (name : Json) : Except Misuse String :=
  match name with
  | .str s => .ok (case.convert s)
  | v => .error (case.misuseOf v)

end NamingCase

/-! ## Names of log channels -/

/-- The channel that all others belong to. -/
def rootChannel : String := "thriftgen"

/-- The name of a channel under the root channel; a name that is there already stays. -/
def channelName (name : String) : String :=
  if name = rootChannel ∨ (rootChannel ++ ".").isPrefixOf name then name
  else rootChannel ++ "." ++ name

end ThriftScala
