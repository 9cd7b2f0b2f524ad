/-
  Tidying of generated text.

  Blank ends of lines go, a run of blank lines becomes one, blank lines at the end go, and every
  line is ended by the chosen line ending.
-/
import ThriftScala.Text.Blank
import ThriftScala.Text.Split

namespace ThriftScala.Text

/-- Keeps one of each run of empty lines; `afterEmpty` tells that an empty one was just kept. -/
def squeeze (afterEmpty : Bool) : List (List Char) → List (List Char)
  | [] => []
  | l :: ls =>
    if l.isEmpty then
      if afterEmpty then squeeze true ls else [] :: squeeze true ls
    else l :: squeeze false ls

/-- Cuts the empty lines off the end. -/
def dropLastEmpty : List (List Char) → List (List Char)
  | [] => []
  | l :: ls =>
    match dropLastEmpty ls with
    | [] => if l.isEmpty then [] else [l]
    | m :: ms => l :: m :: ms

/-- The lines of a tidy text. -/
def tidyLines (cs : List Char) : List (List Char) :=
  dropLastEmpty (squeeze false ((splitAt '\n' cs).map trimEnd))

/-- A tidy text. -/
def tidy (lineEnding : List Char) (cs : List Char) : List Char :=
  joinWith lineEnding (tidyLines cs) ++ lineEnding

end ThriftScala.Text

namespace ThriftScala

/-- Generated code as it is handed out. -/
def formatCode (lineEnding code : String) : String :=
  .ofList (Text.tidy lineEnding.toList code.toList)

end ThriftScala
