/-
  Parameters of tags that handle events: a name, a name with a value in parentheses behind it, or
  a value.

  A value is a number, a text, bytes, a truth value, nothing, dots, a tuple, a set or a mapping.
  What it is does not matter here, only whether it can be read: `isValue` tells that, for which
  `lexeme?` and `tokensFrom` cut the text into tokens and `readSum` and its companions follow the
  grammar.  Elements of sets and keys of mappings must be values that do not change, so the reader
  keeps the kind of a value.
-/
import ThriftScala.Text.Blank
import ThriftScala.Text.Ident
import ThriftScala.Text.Letter
import ThriftScala.Text.Line
import ThriftScala.Text.Name
import ThriftScala.Text.Split

namespace ThriftScala.Cli.Handler

/-! ## Tokens -/

/-- A token of a value. -/
inductive Token where
  | real
  | imaginary
  | text
  | bytes
  | dots
  | word (cs : List Char)
  | mark (c : Char)
  | lineEnd
  deriving DecidableEq, Repr

/-- Can the character stand in a word, or not stand right behind a number? -/
def isWordPart (c : Char) : Bool := Text.isWordChar c || 128 ≤ c.toNat

/-- Is the character a hexadecimal digit? -/
def isHex (c : Char) : Bool := c.isDigit || ('a' ≤ c && c ≤ 'f') || ('A' ≤ c && c ≤ 'F')

/-- How many characters are digits, with single low lines before digits? -/
def digitCount (isDigit : Char → Bool) : List Char → Nat
  | [] => 0
  | c :: r =>
    if isDigit c then digitCount isDigit r + 1
    else if c = '_' && r.head?.any isDigit then digitCount isDigit r + 1
    else 0

/-- How many characters are decimal digits, if the first one is? -/
def decimalCount (cs : List Char) : Nat :=
  if cs.head?.any Char.isDigit then digitCount Char.isDigit cs else 0

/-- How many characters are an exponent? -/
def exponentCount : List Char → Nat
  | e :: r =>
    if e = 'e' || e = 'E' then
      let sign := if r.head?.any fun c => c == '+' || c == '-' then 1 else 0
      let digits := decimalCount (r.drop sign)
      if digits = 0 then 0 else digits + sign + 1
    else 0
  | [] => 0

/-- The digits that the letter behind a leading zero stands for. -/
def baseDigits? (letter : Char) : Option (Char → Bool) :=
  if letter = 'x' || letter = 'X' then some isHex
  else if letter = 'o' || letter = 'O' then some fun c => '0' ≤ c && c ≤ '7'
  else if letter = 'b' || letter = 'B' then some fun c => c == '0' || c == '1'
  else none

/-- A decimal number at the start of a text, and its length. -/
def decimal? (cs : List Char) : Option (Token × Nat) :=
  let whole := decimalCount cs
  let fraction :=
    match cs.drop whole with
    | '.' :: r => decimalCount r + 1
    | _ => 0
  if whole + fraction ≤ 1 && whole = 0 then none
  else
    let power := exponentCount (cs.drop (whole + fraction))
    let length := whole + fraction + power
    if (cs.drop length).head?.any fun c => c == 'j' || c == 'J' then some (.imaginary, length + 1)
    else if fraction + power = 0 && cs.head? = some '0'
        && (cs.take whole).any fun c => c ≠ '0' && c ≠ '_' then none
    else some (.real, length)

/-- A number at the start of a text, and its length. -/
def number? (cs : List Char) : Option (Token × Nat) := do
  let (token, length) ←
    match cs with
    | '0' :: letter :: r =>
      match baseDigits? letter with
      | some isDigit =>
        let digits := digitCount isDigit r
        if digits = 0 then none else some (.real, digits + 2)
      | none => decimal? cs
    | _ => decimal? cs
  if (cs.drop length).head?.any isWordPart then none else some (token, length)

/-- The inside of a text behind its opening quotes. -/
def quoted? (quote : Char) (isLong : Bool) : List Char → Option (List Char)
  | [] => none
  | '\\' :: c :: r => (quoted? quote isLong r).map fun body => '\\' :: c :: body
  | c :: r =>
    if c = quote && (!isLong || r.take 2 = [quote, quote]) then some []
    else if c = '\n' && !isLong then none
    else (quoted? quote isLong r).map (c :: ·)

/-- Do `n` hexadecimal digits come first? -/
def startsWithHex (n : Nat) (cs : List Char) : Bool :=
  (cs.take n).length = n && (cs.take n).all isHex

/-- Do eight hexadecimal digits of a code point come first? -/
def startsWithCodePoint (cs : List Char) : Bool :=
  startsWithHex 8 cs && (cs.take 2 = ['0', '0'])
    && ((cs.drop 2).head? = some '0' || (cs.drop 2).take 2 = ['1', '0'])

/-- Does the name of a character come first, in braces? -/
def startsWithName : List Char → Bool
  | '\x7b' :: r =>
    let name := r.takeWhile (· ≠ '\x7d')
    name.length < r.length && Text.Name.isName name
  | _ => false

/-- Are the escapes of a text complete?  Bytes know fewer of them. -/
def escapesOk (isBytes : Bool) : List Char → Bool
  | [] => true
  | '\\' :: c :: r =>
    (if c = 'x' then startsWithHex 2 r
      else if isBytes then true
      else if c = 'u' then startsWithHex 4 r
      else if c = 'U' then startsWithCodePoint r
      else if c = 'N' then startsWithName r
      else true) && escapesOk isBytes r
  | _ :: r => escapesOk isBytes r

/-- What stands before the quotes of a text: whether it is bytes, and whether it has no escapes. -/
def quoteLeads : List (List Char × Bool × Bool) :=
  [([], false, false), (['u'], false, false), (['r'], false, true), (['b'], true, false),
   (['b', 'r'], true, true), (['r', 'b'], true, true)]

/-- A text in quotes at the start, and its length. -/
def string? (cs : List Char) : Option (Token × Nat) := do
  let lead := cs.takeWhile Char.isAlpha
  let (isBytes, isRaw) ← quoteLeads.lookup (lead.map Char.toLower)
  let quote ← (cs.drop lead.length).head?
  if quote ≠ '"' && quote ≠ '\'' then none
  else
    let isLong := (cs.drop lead.length).take 3 = [quote, quote, quote]
    let quotes := if isLong then 3 else 1
    let body ← quoted? quote isLong (cs.drop (lead.length + quotes))
    if (isBytes && body.any fun c => 128 ≤ c.toNat) || (!isRaw && !escapesOk isBytes body) then none
    else some (if isBytes then .bytes else .text, lead.length + body.length + 2 * quotes)

/-- Can the character stand between tokens of a line? -/
def isGap (c : Char) : Bool := c == ' ' || c == '\t' || c == '\x0c'

/-- What stands at the start of a text, and its length: a token, or what stands between tokens. -/
def lexeme? (cs : List Char) : Option (Option Token × Nat) :=
  match cs with
  | [] => none
  | c :: r =>
    if isGap c then some (none, 1)
    else if c = '\n' then some (some .lineEnd, 1)
    else if c = '#' then some (none, (cs.takeWhile (· ≠ '\n')).length)
    else if c = '\\' then if r.head? = some '\n' then some (none, 2) else none
    else if "()\x7b\x7d:,+-".toList.contains c then some (some (.mark c), 1)
    else if cs.take 3 = ['.', '.', '.'] then some (some .dots, 3)
    else
      match string? cs, number? cs with
      | some (token, length), _ => some (some token, length)
      | none, some (token, length) => some (some token, length)
      | none, none =>
        let word := cs.takeWhile isWordPart
        if word.isEmpty || c.isDigit then none else some (some (.word word), word.length)

/-- The tokens of a text, of which `skip` characters are done. -/
def tokensFrom (skip : Nat) : List Char → Option (List Token)
  | [] => some []
  | c :: r =>
    match skip with
    | skip + 1 => tokensFrom skip r
    | 0 =>
      match lexeme? (c :: r) with
      | some (some token, length) => (tokensFrom (length - 1) r).map (token :: ·)
      | some (none, length) => tokensFrom (length - 1) r
      | none => none

/-- How many brackets may be open at once. -/
def maxDepth : Nat := 200

/-- Takes out the line ends inside of brackets, of which `depth` are open; nothing if too many are
    open at once. -/
def joinLines (depth : Nat) : List Token → Option (List Token)
  | [] => some []
  | token :: r =>
    match token with
    | .lineEnd => if depth = 0 then (joinLines 0 r).map (.lineEnd :: ·) else joinLines depth r
    | .mark '(' | .mark '\x7b' =>
      if depth = maxDepth then none else (joinLines (depth + 1) r).map (token :: ·)
    | .mark ')' | .mark '\x7d' => (joinLines (depth - 1) r).map (token :: ·)
    | _ => (joinLines depth r).map (token :: ·)

/-- Is the first of the lines that hold more than a comment, or the sign of a line that goes on, set
    in?  A page break begins a line anew. -/
def isIndented : List (List Char) → Bool
  | [] => false
  | line :: lines =>
    let gap := line.takeWhile isGap
    match line.drop gap.length with
    | [] | ['\\'] | '#' :: _ => isIndented lines
    | _ => gap.getLast?.any (· ≠ '\x0c')

/-! ## Values -/

/-- The kind of a value, as far as it matters where the value can stand. -/
inductive Kind where
  | real
  | imaginary
  /-- A number behind a sign. -/
  | signed (isReal : Bool)
  | constant
  /-- A set or a mapping, or a tuple that holds one. -/
  | changing
  deriving DecidableEq, Repr

/-- The kind of a tuple. -/
def Kind.ofTuple (elems : List Kind) : Kind :=
  if elems.contains .changing then .changing else .constant

/-- The words that are values. -/
def constantWords : List (List Char) := ["None".toList, "True".toList, "False".toList]

/-- The word for an empty set, letter by letter, each with its compatible forms that can stand in a
    word: long, raised, lowered, wide and mathematical ones. -/
def setLetters : List (List Char) :=
  ["sſˢₛｓ𝐬𝑠𝒔𝓈𝓼𝔰𝕤𝖘𝗌𝘀𝘴𝙨𝚜".toList, "eᵉₑℯⅇｅ𝐞𝑒𝒆𝓮𝔢𝕖𝖊𝖾𝗲𝘦𝙚𝚎".toList,
   "tᵗₜｔ𝐭𝑡𝒕𝓉𝓽𝔱𝕥𝖙𝗍𝘁𝘵𝙩𝚝".toList]

/-- Is this the word for an empty set? -/
def isSetWord (cs : List Char) : Bool :=
  cs.length = setLetters.length && (cs.zip setLetters).all fun e => e.2.contains e.1

mutual

/-- A value, or the sum of a real and an imaginary number. -/
def readSum : Nat → List Token → Option (Kind × List Token)
  | 0, _ => none
  | fuel + 1, ts => do
    let (kind, ts) ← readSigned fuel ts
    match ts with
    | .mark '+' :: ts | .mark '-' :: ts =>
      let (other, ts) ← readSigned fuel ts
      if (kind = .real ∨ kind = .signed true) ∧ other = .imaginary then some (.constant, ts)
      else none
    | ts => some (kind, ts)

/-- A value that may have a sign if it is a number. -/
def readSigned : Nat → List Token → Option (Kind × List Token)
  | 0, _ => none
  | fuel + 1, ts =>
    match ts with
    | .mark '+' :: ts | .mark '-' :: ts => do
      match ← readSingle fuel ts with
      | (.real, ts) => some (.signed true, ts)
      | (.imaginary, ts) => some (.signed false, ts)
      | _ => none
    | ts => readSingle fuel ts

/-- A value without a sign. -/
def readSingle : Nat → List Token → Option (Kind × List Token)
  | 0, _ => none
  | fuel + 1, ts =>
    match ts with
    | .real :: ts => some (.real, ts)
    | .imaginary :: ts => some (.imaginary, ts)
    | .text :: ts => some (.constant, ts.dropWhile (· = .text))
    | .bytes :: ts => some (.constant, ts.dropWhile (· = .bytes))
    | .dots :: ts => some (.constant, ts)
    | .word cs :: ts =>
      if constantWords.contains cs then some (.constant, ts)
      else
        match ts with
        | .mark '(' :: .mark ')' :: ts =>
          if isSetWord cs then some (.changing, ts) else none
        | _ => none
    | .mark '(' :: .mark ')' :: ts => some (.constant, ts)
    | .mark '(' :: ts => do
      let (kind, ts) ← readSum fuel ts
      match ts with
      | .mark ')' :: ts => some (kind, ts)
      | .mark ',' :: ts =>
        let (kinds, ts) ← readElems fuel (some (.mark ')')) ts
        some (.ofTuple (kind :: kinds), ts)
      | _ => none
    | .mark '\x7b' :: .mark '\x7d' :: ts => some (.changing, ts)
    | .mark '\x7b' :: ts => do
      let (kind, ts) ← readSum fuel ts
      if kind = .changing then none
      else
        match ts with
        | .mark '\x7d' :: ts => some (.changing, ts)
        | .mark ',' :: ts =>
          let (kinds, ts) ← readElems fuel (some (.mark '\x7d')) ts
          if kinds.contains .changing then none else some (.changing, ts)
        | .mark ':' :: ts =>
          let (_, ts) ← readSum fuel ts
          readPairs fuel ts
        | _ => none
    | _ => none

/-- Values with commas between them up to a closing bracket, or up to the end; the last may have a
    comma behind it. -/
def readElems : Nat → Option Token → List Token → Option (List Kind × List Token)
  | 0, _, _ => none
  | fuel + 1, close, ts =>
    if ts.head? = close then some ([], ts.tail)
    else do
      let (kind, ts) ← readSum fuel ts
      match ts with
      | .mark ',' :: ts =>
        let (kinds, ts) ← readElems fuel close ts
        some (kind :: kinds, ts)
      | ts => if ts.head? = close then some ([kind], ts.tail) else none

/-- What follows a pair of a mapping. -/
def readPairs : Nat → List Token → Option (Kind × List Token)
  | 0, _ => none
  | fuel + 1, ts =>
    match ts with
    | .mark '\x7d' :: ts => some (.changing, ts)
    | .mark ',' :: .mark '\x7d' :: ts => some (.changing, ts)
    | .mark ',' :: ts => do
      let (key, ts) ← readSum fuel ts
      match ts with
      | .mark ':' :: ts =>
        let (_, ts) ← readSum fuel ts
        if key = .changing then none else readPairs fuel ts
      | _ => none
    | _ => none

end

/-- Do the tokens write a value, or values with commas between them? -/
def readsAll (ts : List Token) : Bool :=
  let fuel := 4 * ts.length + 4
  match readSum fuel ts with
  | some (_, []) => true
  | some (_, .mark ',' :: ts) => (readElems fuel none ts).isSome
  | _ => false

/-- Can the text be read as a value? -/
def isValue (cs : List Char) : Bool :=
  let cs := Text.unifyLineEnds cs
  !cs.contains '\x00' && !isIndented (Text.splitAt '\n' cs) &&
    match tokensFrom 0 cs >>= joinLines 0 with
    | some tokens =>
      let ts := tokens.dropWhile (· = .lineEnd)
      readsAll (ts.reverse.dropWhile (· = .lineEnd)).reverse
    | none => false

/-! ## Parameters -/

/-- Can the character stand in the name of a handler? -/
def isNameChar (c : Char) : Bool := Text.isLetter c || c == '.'

/-- Can parameters be read?  A name needs none; behind a name they stand in parentheses on one
    line. -/
def isReadable (parameters : List Char) : Bool :=
  let cs := Text.trimWhile Text.isBlank parameters
  let behind := cs.dropWhile isNameChar
  if behind.isEmpty then true
  else if behind.head? = some '(' && behind.getLast? = some ')' && !behind.contains '\n' then
    isValue behind
  else isValue cs

end ThriftScala.Cli.Handler
