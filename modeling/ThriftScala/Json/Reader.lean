/-
  Reading JSON text.

  The reader works on the characters that are left; a fault is its cause and the number of
  characters left where it was found, from which `ReadError` gets its place in the text.  A key
  that comes twice keeps its first place and its last value.  `NaN`, `Infinity` and `-Infinity` are
  numbers.  The fuel of the mutual functions is twice the length of the text, and every second
  step takes a character, so it never runs out.
-/
import ThriftScala.Json.Basic
import ThriftScala.Text.Surrogate

namespace ThriftScala.Json

/-- Why a text is not JSON. -/
inductive FaultCause where
  | expectingValue
  | expectingName
  | expectingColon
  | expectingComma
  | extraData
  | unterminatedText
  | controlCharacter
  | badEscape
  | badUnicodeEscape
  | byteOrderMark
  deriving DecidableEq, Repr

/-- A cause, and how many characters were left where it was found. -/
structure Fault where
  cause : FaultCause
  left : Nat
  deriving DecidableEq, Repr

/-- The fault of a cause, found in front of the given characters. -/
def faultAt (cause : FaultCause) (cs : List Char) : Fault := ⟨cause, cs.length⟩

/-- Skips the blanks that JSON allows between its tokens. -/
def skipBlanks (cs : List Char) : List Char :=
  cs.dropWhile fun c => c == ' ' || c == '\t' || c == '\n' || c == '\r'

/-! ## Texts -/

/-- The value of a hexadecimal digit. -/
def hexValue? (c : Char) : Option Nat :=
  if '0' ≤ c ∧ c ≤ '9' then some (c.toNat - 48)
  else if 'a' ≤ c ∧ c ≤ 'f' then some (c.toNat - 87)
  else if 'A' ≤ c ∧ c ≤ 'F' then some (c.toNat - 55)
  else none

/-- The value of four hexadecimal digits. -/
def hexValue4? (a b c d : Char) : Option Nat := do
  let a ← hexValue? a
  let b ← hexValue? b
  let c ← hexValue? c
  let d ← hexValue? d
  pure (((a * 16 + b) * 16 + c) * 16 + d)

/-- The character that a one-letter escape stands for. -/
def simpleEscape? : Char → Option Char
  | '"' => some '"'
  | '\\' => some '\\'
  | '/' => some '/'
  | 'b' => some '\x08'
  | 'f' => some '\x0c'
  | 'n' => some '\n'
  | 'r' => some '\r'
  | 't' => some '\t'
  | _ => none

/-- Is the unit the first half of a pair? -/
def isHighHalf (n : Nat) : Bool := 0xD800 ≤ n && n ≤ 0xDBFF

/-- Is the unit the second half of a pair? -/
def isLowHalf (n : Nat) : Bool := 0xDC00 ≤ n && n ≤ 0xDFFF

/-- The character of two halves. -/
def joinHalves (high low : Nat) : Char :=
  Char.ofNat (0x10000 + (high - 0xD800) * 0x400 + (low - 0xDC00))

/-- The character of an escape that stands alone.  Half of a pair without its other half is kept as
    such. -/
def unitChar (n : Nat) : Char :=
  if isHighHalf n || isLowHalf n then Text.loneHalf n else Char.ofNat n

/-- Puts a character in front of a text that is read. -/
def after (c : Char) : Except Fault (List Char × List Char) → Except Fault (List Char × List Char)
  | .ok (cs, r) => .ok (c :: cs, r)
  | .error f => .error f

/-- The second half of a pair, if an escape for one comes next with a character after it. -/
def secondHalf? : List Char → Except Fault (Option Nat)
  | '\\' :: 'u' :: e :: f :: g :: h :: t =>
    if t.isEmpty then .ok none
    else
      match hexValue4? e f g h with
      | none => .error ⟨.badUnicodeEscape, t.length + 5⟩
      | some low => .ok (if isLowHalf low then some low else none)
  | _ => .ok none

/-- Reads a text up to its closing quote; `start` counts the characters left at the opening one.
    Four hexadecimal digits need a character after them to be an escape. -/
def readText (start : Nat) : List Char → Except Fault (List Char × List Char)
  | [] => .error ⟨.unterminatedText, start⟩
  | '"' :: r => .ok ([], r)
  | '\\' :: 'u' :: a :: b :: c :: d :: r =>
    match hexValue4? a b c d with
    | none => .error ⟨.badUnicodeEscape, r.length + 5⟩
    | some n =>
      if r.isEmpty then .error ⟨.badUnicodeEscape, 5⟩
      else if isHighHalf n then
        match secondHalf? r with
        | .error fault => .error fault
        | .ok none => after (unitChar n) (readText start r)
        | .ok (some low) =>
          match r with
          | _ :: _ :: _ :: _ :: _ :: _ :: t => after (joinHalves n low) (readText start t)
          | _ => .error ⟨.badUnicodeEscape, 5⟩
      else after (unitChar n) (readText start r)
  | '\\' :: 'u' :: r => .error ⟨.badUnicodeEscape, r.length + 1⟩
  | '\\' :: c :: r =>
    match simpleEscape? c with
    | some e => after e (readText start r)
    | none => .error ⟨.badEscape, r.length + 2⟩
  | ['\\'] => .error ⟨.unterminatedText, start⟩
  | c :: r =>
    if c.toNat < 0x20 then .error ⟨.controlCharacter, r.length + 1⟩
    else after c (readText start r)

/-! ## Numbers -/

/-- The digits in front. -/
def digits (cs : List Char) : List Char := cs.takeWhile Char.isDigit

/-- The number that a list of digits writes. -/
def digitsValue (ds : List Char) : Nat := ds.foldl (fun n d => 10 * n + (d.toNat - 48)) 0

/-- The digits after a point, if a point with a digit comes next, and what is left. -/
def readFraction : List Char → List Char × List Char
  | '.' :: r => if (digits r).isEmpty then ([], '.' :: r) else (digits r, r.dropWhile Char.isDigit)
  | cs => ([], cs)

/-- The exponent, if a whole one comes next, and what is left. -/
def readExponent (cs : List Char) : Option Int × List Char :=
  match cs with
  | c :: r =>
    if c = 'e' ∨ c = 'E' then
      let (negative, r) :=
        match r with
        | '-' :: t => (true, t)
        | '+' :: t => (false, t)
        | _ => (false, r)
      if (digits r).isEmpty then (none, cs)
      else
        let n : Int := digitsValue (digits r)
        (some (if negative then -n else n), r.dropWhile Char.isDigit)
    else (none, cs)
  | [] => (none, [])

/-- A number after its sign, if one comes next, and what is left. -/
def readUnsigned? (negative : Bool) (cs : List Char) : Option (Json × List Char) :=
  let whole :=
    match cs with
    | '0' :: _ => ['0']
    | _ => digits cs
  if whole.isEmpty then none
  else
    let (fraction, r) := readFraction (cs.drop whole.length)
    let (exponent, r) := readExponent r
    if fraction.isEmpty && exponent.isNone then
      let n : Int := digitsValue whole
      some (.int (if negative then -n else n), r)
    else
      let ds := digitsValue (whole ++ fraction)
      some (.double (Double.ofDecimal negative ds (exponent.getD 0 - fraction.length)), r)

/-- A number, if one comes next, and what is left. -/
def readNumber? : List Char → Option (Json × List Char)
  | 'N' :: 'a' :: 'N' :: r => some (.double .nan, r)
  | 'I' :: 'n' :: 'f' :: 'i' :: 'n' :: 'i' :: 't' :: 'y' :: r => some (.double (.infinite false), r)
  | '-' :: 'I' :: 'n' :: 'f' :: 'i' :: 'n' :: 'i' :: 't' :: 'y' :: r =>
    some (.double (.infinite true), r)
  | '-' :: r => readUnsigned? true r
  | cs => readUnsigned? false cs

/-! ## Values -/

mutual

/-- Reads a value; there are no blanks in front of it. -/
def readValue : Nat → List Char → Except Fault (Json × List Char)
  | 0, cs => .error (faultAt .expectingValue cs)
  | _ + 1, '"' :: r => do
    let (s, r) ← readText (r.length + 1) r
    pure (.str (.ofList s), r)
  | fuel + 1, '\x7b' :: r =>
    match skipBlanks r with
    | '\x7d' :: t => .ok (.obj [], t)
    | t => readMembers fuel [] t
  | fuel + 1, '[' :: r =>
    match skipBlanks r with
    | ']' :: t => .ok (.arr [], t)
    | t => readElems fuel [] t
  | _ + 1, 'n' :: 'u' :: 'l' :: 'l' :: r => .ok (.null, r)
  | _ + 1, 't' :: 'r' :: 'u' :: 'e' :: r => .ok (.bool true, r)
  | _ + 1, 'f' :: 'a' :: 'l' :: 's' :: 'e' :: r => .ok (.bool false, r)
  | _ + 1, cs =>
    match readNumber? cs with
    | some reading => .ok reading
    | none => .error (faultAt .expectingValue cs)

/-- Reads the members of an object from a key on; `seen` are those before. -/
def readMembers : Nat → Entries Json → List Char → Except Fault (Json × List Char)
  | 0, _, cs => .error (faultAt .expectingName cs)
  | fuel + 1, seen, '"' :: r => do
    let (k, r) ← readText (r.length + 1) r
    match skipBlanks r with
    | ':' :: r => do
      let (v, r) ← readValue fuel (skipBlanks r)
      let seen := seen.set (.ofList k) v
      match skipBlanks r with
      | '\x7d' :: r => pure (.obj seen, r)
      | ',' :: r => readMembers fuel seen (skipBlanks r)
      | r => .error (faultAt .expectingComma r)
    | r => .error (faultAt .expectingColon r)
  | _ + 1, _, cs => .error (faultAt .expectingName cs)

/-- Reads the elements of a list from one on; `seen` are those before, the last in front. -/
def readElems : Nat → List Json → List Char → Except Fault (Json × List Char)
  | 0, _, cs => .error (faultAt .expectingValue cs)
  | fuel + 1, seen, cs => do
    let (v, r) ← readValue fuel cs
    match skipBlanks r with
    | ']' :: r => pure (.arr (v :: seen).reverse, r)
    | ',' :: r => readElems fuel (v :: seen) (skipBlanks r)
    | r => .error (faultAt .expectingComma r)

end

/-- Reads a whole text. -/
def readChars (cs : List Char) : Except Fault Json :=
  if cs.head? = some '\uFEFF' then .error (faultAt .byteOrderMark cs)
  else do
    let (v, r) ← readValue (2 * cs.length + 2) (skipBlanks cs)
    match skipBlanks r with
    | [] => pure v
    | r => .error (faultAt .extraData r)

/-- A cause and its place in the text, counted in characters from zero. -/
structure ReadError where
  cause : FaultCause
  /-- The line, from one. -/
  line : Nat
  /-- The column, from one. -/
  column : Nat
  position : Nat
  deriving DecidableEq, Repr

/-- The place of a fault in its text. -/
def Fault.locate (f : Fault) (text : List Char) : ReadError :=
  let before := text.take (text.length - f.left)
  { cause := f.cause
    line := before.count '\n' + 1
    column := (before.reverse.takeWhile (· ≠ '\n')).length + 1
    position := before.length }

/-- Reads a JSON text. -/
def read (text : String) : Except ReadError Json :=
  (readChars text.toList).mapError (·.locate text.toList)

/-- What a cause says. -/
def FaultCause.message : FaultCause → String
  | .expectingValue => "Expecting value"
  | .expectingName => "Expecting property name enclosed in double quotes"
  | .expectingColon => "Expecting ':' delimiter"
  | .expectingComma => "Expecting ',' delimiter"
  | .extraData => "Extra data"
  | .unterminatedText => "Unterminated string starting at"
  | .controlCharacter => "Invalid control character at"
  | .badEscape => "Invalid \\escape"
  | .badUnicodeEscape => "Invalid \\uXXXX escape"
  | .byteOrderMark => "Unexpected UTF-8 BOM (decode using utf-8-sig)"

/-- What an error says, with its place. -/
def ReadError.message (e : ReadError) : String :=
  e.cause.message ++ ": line " ++ toString e.line ++ " column " ++ toString e.column
    ++ " (char " ++ toString e.position ++ ")"

end ThriftScala.Json
