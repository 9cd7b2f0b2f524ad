/-
  Tabs: stops at equal distances, counted anew on every line.

  `expandTabs` counts characters and `expandTabsByCells` the cells of a terminal; in a text whose
  characters take one cell each they come to the same.
-/
import ThriftScala.Text.Cell
import ThriftScala.Text.Split

namespace ThriftScala.Text

/-! ## By characters -/

/-- Writes blanks for tabs, where `column` characters stand before on the line. -/
def expandFrom (width column : Nat) : List Char → List Char
  | [] => []
  | '\t' :: r => List.replicate (width - column % width) ' ' ++ expandFrom width 0 r
  | '\n' :: r => '\n' :: expandFrom width 0 r
  | '\r' :: r => '\r' :: expandFrom width 0 r
  | c :: r => c :: expandFrom width (column + 1) r

/-- Writes blanks for tabs, up to the next stop: at least one, at most `width`. -/
def expandTabs (width : Nat) (cs : List Char) : List Char := expandFrom width 0 cs

/-! ## By cells -/

/-- Joins the parts of a line between its tabs, where the first part begins at a stop.  A tab is a
    blank and as many more as lead to a stop; the first blank counts as a character of the part
    before it. -/
def joinAtStops (width : Nat) : List (List Char) → List Char
  | [] => []
  | [part] => part
  | part :: next :: parts =>
    let past := cells (part ++ [' ']) % width
    let more := if past = 0 then 0 else width - past
    part ++ List.replicate (more + 1) ' ' ++ joinAtStops width (next :: parts)

/-- Writes blanks for the tabs of a line. -/
def expandTabsByCells (width : Nat) (line : List Char) : List Char :=
  joinAtStops width (splitAt '\t' line)

end ThriftScala.Text
