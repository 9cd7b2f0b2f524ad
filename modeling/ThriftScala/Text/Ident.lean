/-
  Identifiers as Unicode defines them: a start character, then characters that may continue one.
-/
import ThriftScala.Text.IdentTable

namespace ThriftScala.Text

/-- Is the text an identifier?  The empty text is none. -/
def isIdentifier : List Char → Bool
  | [] => false
  | c :: r => identStarts.holds c && r.all identParts.holds

/-- The letters, digits and low line of ASCII. -/
def isWordChar (c : Char) : Bool := c.isAlphanum || c == '_'

/-- Is the text an identifier of ASCII letters, digits and low lines? -/
def isWord : List Char → Bool
  | [] => false
  | c :: r => (c.isAlpha || c == '_') && r.all isWordChar

theorem isWordChar_of_isWord {cs : List Char} (h : isWord cs = true) :
    ∀ c ∈ cs, isWordChar c = true := by
  cases cs with
  | nil => cases h
  | cons c r =>
    rw [isWord, Bool.and_eq_true] at h
    intro d hd
    rcases List.mem_cons.mp hd with rfl | hd
    · have hc := h.1
      rw [Bool.or_eq_true] at hc
      rcases hc with hc | hc <;> simp [isWordChar, Char.isAlphanum, hc]
    · exact List.all_eq_true.mp h.2 d hd

theorem ne_nil_of_isWord {cs : List Char} (h : isWord cs = true) : cs ≠ [] := by
  rintro rfl
  cases h

end ThriftScala.Text
