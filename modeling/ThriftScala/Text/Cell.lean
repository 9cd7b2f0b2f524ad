/-
  The cells that a text takes on a terminal.

  A character takes one cell, two or none.  A zero-width joiner makes one picture of its
  neighbours, so what follows it takes none, and a variation selector that asks for an emoji may
  widen the character before it.  A text that is cut to some cells is cut between pictures.
-/
import ThriftScala.Text.CellTable

namespace ThriftScala.Text

/-- The cells of a character that stands alone. -/
def cellWidth (c : Char) : Nat :=
  if cellless.holds c then 0 else if doubleCell.holds c then 2 else 1

/-- Joins the characters beside it. -/
def joiner : Char := '\u200d'

/-- Asks for the character before it as an emoji. -/
def emojiSelector : Char := '\ufe0f'

/-- The cells of a text.  `last?` is the character before it that can be widened, and `joined`
    tells that the first one is joined to it. -/
def cellsFrom (last? : Option Char) (joined : Bool) : List Char → Nat
  | [] => 0
  | c :: r =>
    if joined then cellsFrom last? false r
    else if c = joiner then cellsFrom last? true r
    else if c = emojiSelector then
      (if last?.any emojiWidened.holds then 1 else 0) + cellsFrom none false r
    else if cellWidth c = 0 then cellsFrom last? false r
    else cellWidth c + cellsFrom (some c) false r

/-- The cells of a text. -/
def cells (cs : List Char) : Nat := cellsFrom none false cs

/-- The pictures of a text: how many characters make each, and its cells.  A picture takes the
    characters behind it that have no cell of their own; `count` characters with `width` cells
    belong to one that is not done. -/
def picturesFrom (last? : Option Char) (joined : Bool) (count width : Nat) :
    List Char → List (Nat × Nat)
  | [] => if count = 0 then [] else [(count, width)]
  | c :: r =>
    if joined then picturesFrom last? false (count + 1) width r
    else if c = joiner then picturesFrom last? true (count + 1) width r
    else if c = emojiSelector then
      let wider := if last?.any emojiWidened.holds then 1 else 0
      picturesFrom none false (count + 1) (width + wider) r
    else if cellWidth c = 0 then picturesFrom last? false (count + 1) width r
    else
      (if count = 0 then [] else [(count, width)])
        ++ picturesFrom (some c) false 1 (cellWidth c) r

/-- Cuts the characters of some pictures to some cells.  A picture that would be cut itself leaves a
    blank. -/
def cutPictures (room : Nat) : List (Nat × Nat) → List Char → List Char
  | [], _ => []
  | (count, width) :: ps, cs =>
    if room = 0 then []
    else if width ≤ room then cs.take count ++ cutPictures (room - width) ps (cs.drop count)
    else [' ']

/-- Cuts a text to some cells. -/
def cutToCells (room : Nat) (cs : List Char) : List Char :=
  cutPictures room (picturesFrom none false 0 0 cs) cs

end ThriftScala.Text
