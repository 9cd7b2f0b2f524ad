/-
  Tables: rows of a name and a marked value.

  The values stand in a column that is as wide as the widest of their lines.  Tabs count for nothing
  there, so lines can turn out longer when they are laid out: they are broken before words that do
  not fit, blanks that stick out are cut off, and what is still too long ends with dots.  A style
  is looked at if it is left with a character, or if nothing was cut.
-/
import ThriftScala.Cli.Markup

namespace ThriftScala.Cli.Table

open Markup (Span Fault)

/-! ## Lines with their styles -/

/-- A line, or a text that is not cut into lines yet. -/
structure Line where
  chars : List Char
  spans : List Span
  deriving DecidableEq, Repr

/-- The part of a span from one character to another, counted from there; nothing if it has no
    character. -/
def cutSpan? (start stop : Nat) (s : Span) : Option Span :=
  let first := max s.start start
  let last := min s.stop stop
  if first < last then some ⟨first - start, last - start, s.style⟩ else none

/-- The part of a line from one character to another. -/
def Line.slice (l : Line) (start stop : Nat) : Line :=
  ⟨(l.chars.drop start).take (stop - start), l.spans.filterMap (cutSpan? start stop)⟩

/-- The parts of a line of the given lengths, with `gap` characters left out between them. -/
def Line.slices (l : Line) (gap start : Nat) : List Nat → List Line
  | [] => []
  | n :: ns => l.slice start (start + n) :: l.slices gap (start + n + gap) ns

/-- The first characters of a line.  A span goes if it begins behind them. -/
def Line.keep (l : Line) (count : Nat) : Line :=
  ⟨l.chars.take count,
   (l.spans.filter (·.start < count)).map fun s => { s with stop := min s.stop count }⟩

/-! ## Layout -/

/-- The lines of a text; a text without line ends stays as it is. -/
def Line.atLineEnds (l : Line) : List Line :=
  if l.chars.contains '\n' then l.slices 1 0 ((Text.splitAt '\n' l.chars).map (·.length)) else [l]

/-- Writes blanks for tabs.  A style goes on to the next stop with the tab. -/
def Line.expandTabs (l : Line) : Line :=
  let place (i : Nat) : Nat := (Text.expandTabsByCells 8 (l.chars.take i)).length
  if l.chars.contains '\t' then
    ⟨Text.expandTabsByCells 8 l.chars,
     (l.spans.filter fun s => s.start < s.stop).map fun s =>
       { s with start := place s.start, stop := place s.stop }⟩
  else l

/-- The words of a text with the blanks behind them; the first has those before it, too. -/
def spacedWords : List Char → List (List Char)
  | [] => []
  | c :: r =>
    match spacedWords r with
    | [] => [[c]]
    | w :: ws =>
      let gap := w.takeWhile Text.isBlank
      if Text.isBlank c || gap.isEmpty || gap.length = w.length then (c :: w) :: ws
      else (c :: gap) :: w.drop gap.length :: ws

/-- The words that share a line, in turn.  `before` are those on the line so far, with `used` cells;
    blanks at the end of a word may stick out. -/
def rowsFrom (width used : Nat) (before : List Char) : List (List Char) → List (List Char)
  | [] => if before.isEmpty then [] else [before]
  | w :: ws =>
    if used + Text.cells (Text.trimEnd w) ≤ width then
      rowsFrom width (used + Text.cells w) (before ++ w) ws
    else
      (if before.isEmpty then [] else [before]) ++ rowsFrom width (Text.cells w) w ws

/-- Breaks a line before words that do not fit. -/
def Line.wrap (width : Nat) (l : Line) : List Line :=
  match rowsFrom width 0 [] (spacedWords l.chars) with
  | [] | [_] => [l]
  | rows => l.slices 0 0 (rows.map (·.length))

/-- Cuts off blanks at the end that are too many. -/
def Line.cropBlanks (width : Nat) (l : Line) : Line :=
  let blanks := (l.chars.reverse.takeWhile Text.isBlank).length
  let excess := min blanks (l.chars.length - width)
  if excess = 0 then l else l.keep (l.chars.length - excess)

/-- Puts dots for the end of a line that is too long. -/
def Line.shorten (width : Nat) (l : Line) : Line :=
  if Text.cells l.chars ≤ width then l
  else
    let cs := Text.cutToCells (width - 1) l.chars ++ ['…']
    ⟨cs, if cs.length < l.chars.length then (l.keep cs.length).spans else l.spans⟩

/-- The lines of a text in a column. -/
def Line.layout (width : Nat) (l : Line) : List Line :=
  l.atLineEnds.flatMap fun line =>
    (line.expandTabs.wrap width).map fun part => (part.cropBlanks width).shorten width

/-! ## Rows -/

/-- The cells of the widest line of a text. -/
def widest (cs : List Char) : Nat := ((Text.lines cs).map Text.cells).foldl max 0

/-- A row: the name beside the first line of the value. -/
def rowLines (nameWidth : Nat) (name : String) (lines : List Line) : List String :=
  let names := name.toList :: List.replicate (lines.length - 1) []
  (names.zip lines).map fun e =>
    .ofList (e.1 ++ List.replicate (nameWidth + 2 - e.1.length) ' ' ++ e.2.chars)

/-- The lines of a table. -/
def lines (rows : List (String × String)) : Except Fault (List String) := do
  let shown ← rows.mapM fun row => do
    let (cs, spans) ← Markup.shown row.2
    pure (row.1, Line.mk cs spans)
  let nameWidth := (shown.map (·.1.length)).foldl max 0
  let width := (shown.map fun row => widest row.2.chars).foldl max 0
  let laid := shown.map fun row => (row.1, row.2.layout width)
  (laid.flatMap fun row => row.2.flatMap (·.spans)).forM Span.check
  pure (laid.flatMap fun row => rowLines nameWidth row.1 row.2)

end ThriftScala.Cli.Table
