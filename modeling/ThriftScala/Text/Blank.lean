/-
  Blank characters and the cutting of blank ends.

  The blank characters are those of Unicode (spaces of every width, the line and paragraph
  separators, the no-break spaces) together with the four information separators U+001C–U+001F.
  All cuts work on lists of characters; the small lemmas say what a cut keeps.
-/
import ThriftScala.Text.Ranges

namespace ThriftScala.Text

/-- The blank code points. -/
def blankRanges : Ranges :=
  [(0x09, 0x0D), (0x1C, 0x20), (0x85, 0x85), (0xA0, 0xA0), (0x1680, 0x1680), (0x2000, 0x200A),
   (0x2028, 0x2029), (0x202F, 0x202F), (0x205F, 0x205F), (0x3000, 0x3000)]

/-- Is the character blank? -/
def isBlank (c : Char) : Bool := blankRanges.holds c

/-- Is every character blank? -/
def allBlank (cs : List Char) : Bool := cs.all isBlank

/-- Cuts the blanks off the end. -/
def trimEnd : List Char → List Char
  | [] => []
  | c :: r =>
    match trimEnd r with
    | [] => if isBlank c then [] else [c]
    | d :: t => c :: d :: t

/-- Cuts a chosen class of characters off both ends. -/
def trimWhile (p : Char → Bool) (cs : List Char) : List Char :=
  ((cs.dropWhile p).reverse.dropWhile p).reverse

/-- The words of a text, with blanks around them. -/
def words : List Char → List (List Char)
  | [] => []
  | [c] => if isBlank c then [] else [[c]]
  | c :: d :: r =>
    if isBlank c then words (d :: r)
    else if isBlank d then [c] :: words (d :: r)
    else
      match words (d :: r) with
      | [] => [[c]]
      | w :: ws => (c :: w) :: ws

theorem trimEnd_eq_nil_iff {cs : List Char} : trimEnd cs = [] ↔ allBlank cs = true := by
  induction cs with
  | nil => simp [trimEnd, allBlank]
  | cons c r ih =>
    cases h : trimEnd r with
    | nil => by_cases hc : isBlank c <;> simp_all [trimEnd, allBlank]
    | cons d t =>
      have hr : ¬ allBlank r = true := by rw [← ih, h]; simp
      simp_all [trimEnd, allBlank]

/-- A cut end stays cut. -/
theorem trimEnd_trimEnd (cs : List Char) : trimEnd (trimEnd cs) = trimEnd cs := by
  induction cs with
  | nil => rfl
  | cons c r ih =>
    cases h : trimEnd r with
    | nil => by_cases hc : isBlank c <;> simp [trimEnd, h, hc]
    | cons d t =>
      have e : trimEnd (c :: r) = c :: d :: t := by simp [trimEnd, h]
      rw [h] at ih
      rw [e, trimEnd, ih]

end ThriftScala.Text
