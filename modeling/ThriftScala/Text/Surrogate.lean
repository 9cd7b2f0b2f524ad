/-
  Halves of surrogate pairs that stand alone.

  A text of the program is a sequence of code points, and a code point may be half of a surrogate
  pair: an escape in JSON can write one half without the other.  The characters of a string are
  Unicode scalar values, and no half is one.  So a half is kept as the private-use character whose
  number ends with the same four hexadecimal digits.  These characters, U+FD800 to U+FDFFF, stand
  for halves everywhere; texts in which they stand for themselves are left out.

  A text with a half in it can be compared, joined and shown, but it has no form in UTF-8.
-/

namespace ThriftScala.Text

/-- The character that stands for a half of a pair. -/
def loneHalf (unit : Nat) : Char := Char.ofNat (0xF0000 + unit)

/-- Does the character stand for a half of a pair? -/
def isLoneHalf (c : Char) : Bool := 0xFD800 ≤ c.toNat && c.toNat ≤ 0xFDFFF

/-- Does the character stand for a half that names of files use for a byte that is no text? -/
def isEscapedByte (c : Char) : Bool := 0xFDC80 ≤ c.toNat && c.toNat ≤ 0xFDCFF

/-- The half that a character stands for. -/
def halfOf (c : Char) : Nat := c.toNat - 0xF0000

end ThriftScala.Text

/-- Can the text be encoded?  Only halves of pairs cannot. -/
def String.isEncodable (s : String) : Bool := s.toList.all fun c => !ThriftScala.Text.isLoneHalf c

namespace String

/-- Pieces can be encoded exactly if their text can. -/
@[simp]
theorem isEncodable_append (s t : String) :
    (s ++ t).isEncodable = (s.isEncodable && t.isEncodable) := by
  simp [isEncodable]

@[simp]
theorem isEncodable_join (ss : List String) :
    (String.join ss).isEncodable = ss.all isEncodable := by
  induction ss with
  | nil => rfl
  | cons s ss ih => rw [join_cons, isEncodable_append, ih, List.all_cons]

end String
