/-
  Lines of a text.

  `lines` cuts after every line end and keeps the line end with its line, so that nothing is lost.  A
  carriage return with a line feed after it is one line end.  `unifyLineEnds` turns the two older
  line ends into a line feed, which is how text files are read.
-/
import ThriftScala.Text.Ranges

namespace ThriftScala.Text

/-- The characters that end a line. -/
def lineEndRanges : Ranges :=
  [(0x0A, 0x0D), (0x1C, 0x1E), (0x85, 0x85), (0x2028, 0x2029)]

/-- Does the character end a line? -/
def isLineEnd (c : Char) : Bool := lineEndRanges.holds c

/-- Cuts a text after every line end. -/
def lines : List Char → List (List Char)
  | [] => []
  | '\r' :: '\n' :: r => ['\r', '\n'] :: lines r
  | c :: r =>
    if isLineEnd c then [c] :: lines r
    else
      match lines r with
      | [] => [[c]]
      | l :: ls => (c :: l) :: ls

/-- Writes every line end made of a carriage return as a line feed. -/
def unifyLineEnds : List Char → List Char
  | [] => []
  | '\r' :: '\n' :: r => '\n' :: unifyLineEnds r
  | c :: r => (if c = '\r' then '\n' else c) :: unifyLineEnds r

/-- A text without carriage returns has only line feeds. -/
theorem unifyLineEnds_of_not_mem {cs : List Char} (h : '\r' ∉ cs) : unifyLineEnds cs = cs := by
  induction cs with
  | nil => rfl
  | cons c cs ih =>
    rw [List.mem_cons, not_or] at h
    have hc : c ≠ '\r' := fun heq => h.1 heq.symm
    rw [unifyLineEnds, if_neg hc, ih h.2]
    intro r heq
    exact absurd heq hc

end ThriftScala.Text
