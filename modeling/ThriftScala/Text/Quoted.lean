/-
  Quoted text as messages show it: in single quotes, or in double quotes when the text holds a
  single quote and no double one; backslashes, the quote in use, controls and every character
  without a printed form are written as escapes, all other characters as they are.
-/
import ThriftScala.Text.PrintableTable
import ThriftScala.Text.Surrogate

namespace ThriftScala.Text

/-- A hexadecimal digit in lower case. -/
def hexDigit (n : Nat) : Char := if n < 10 then Char.ofNat (48 + n) else Char.ofNat (87 + n)

/-- `n` in hexadecimal with exactly `width` digits. -/
def hexDigits : Nat → Nat → List Char
  | 0, _ => []
  | width + 1, n => hexDigits width (n / 16) ++ [hexDigit (n % 16)]

/-- Has the character a printed form of its own? -/
def isPrintable (c : Char) : Bool := !unprintables.holds c

/-- One character of a text quoted by `quote`. -/
def quotedChar (quote c : Char) : List Char :=
  if c = quote ∨ c = '\\' then ['\\', c]
  else if c = '\n' then ['\\', 'n']
  else if c = '\r' then ['\\', 'r']
  else if c = '\t' then ['\\', 't']
  else if isPrintable c then [c]
  else if isLoneHalf c then '\\' :: 'u' :: hexDigits 4 (halfOf c)
  else if c.toNat < 0x100 then '\\' :: 'x' :: hexDigits 2 c.toNat
  else if c.toNat < 0x10000 then '\\' :: 'u' :: hexDigits 4 c.toNat
  else '\\' :: 'U' :: hexDigits 8 c.toNat

/-- The quote that a text is shown in. -/
def quoteFor (cs : List Char) : Char :=
  if cs.contains '\'' && !cs.contains '"' then '"' else '\''

/-- A text in quotes, with escapes. -/
def quoted (cs : List Char) : List Char :=
  let q := quoteFor cs
  q :: cs.flatMap (quotedChar q) ++ [q]

end ThriftScala.Text

/-- A string in quotes, with escapes, as messages show it. -/
def String.inQuotes (s : String) : String := .ofList (ThriftScala.Text.quoted s.toList)
