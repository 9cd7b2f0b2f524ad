/-
  Fragment sources as tokens.

  A source is read line by line.  Inside a line a tag runs from two opening braces to the first
  two closing ones after them; the sign behind the opening braces tells what the tag does, and
  blanks and tabs around the sign and the key do not count.  A line that holds one tag with a sign
  and is blank otherwise is the tag's own line and gives no text at all.

  `scan` cuts a line into texts and tags in one pass; its state says whether it is in a text or in
  a tag.  `tokens` gives the tokens of a whole source.
-/
import ThriftScala.Text.Blank
import ThriftScala.Text.Ident
import ThriftScala.Text.Line

namespace ThriftScala.Fragment

/-- What a tag does. -/
inductive Sign where
  /-- No sign: the text under a key. -/
  | scalar
  /-- `#`: opens a block that is written once for each item. -/
  | block
  /-- `^`: opens a block that is written where there is no item. -/
  | inverse
  /-- `/`: closes a block. -/
  | close
  /-- `>`: another fragment. -/
  | splice
  /-- `!`: a comment. -/
  | comment
  deriving DecidableEq, Repr

/-- The sign that a character stands for. -/
def Sign.ofChar? : Char → Option Sign
  | '#' => some .block
  | '^' => some .inverse
  | '/' => some .close
  | '>' => some .splice
  | '!' => some .comment
  | _ => none

/-- A part of a line. -/
inductive Piece where
  | text (cs : List Char)
  | tag (sign : Sign) (key : List Char)
  deriving DecidableEq, Repr

/-- The blanks that do not count inside a tag. -/
def isTagBlank (c : Char) : Bool := c == ' ' || c == '\t'

/-- The tag with the given characters between its braces. -/
def Piece.ofInside (inside : List Char) : Piece :=
  let trimmed := Text.trimWhile isTagBlank inside
  match trimmed with
  | c :: r =>
    match Sign.ofChar? c with
    | some sign => .tag sign (r.dropWhile isTagBlank)
    | none => .tag .scalar trimmed
  | [] => .tag .scalar []

/-- Do two closing braces come at some place? -/
def closes : List Char → Bool
  | '\x7d' :: '\x7d' :: _ => true
  | _ :: r => closes r
  | [] => false

/-- Does a tag begin here?  It must be closed on this line. -/
def opens : List Char → Bool
  | '\x7b' :: '\x7b' :: r => closes r
  | _ => false

/-- Where the cutting of a line stands. -/
inductive ScanState where
  /-- In a text; the characters of it so far, the last in front. -/
  | text (seen : List Char)
  /-- Before the second opening brace. -/
  | opening
  /-- In a tag; the characters of it so far, the last in front. -/
  | tag (seen : List Char)
  /-- Before the second closing brace. -/
  | closing

/-- Cuts a line into texts and tags. -/
def scan : ScanState → List Char → List Piece
  | .text seen, [] => [.text seen.reverse]
  | .opening, [] => []
  | .tag seen, [] => [.text seen.reverse]
  | .closing, [] => []
  | .text seen, c :: r =>
    if opens (c :: r) then .text seen.reverse :: scan .opening r else scan (.text (c :: seen)) r
  | .opening, _ :: r => scan (.tag []) r
  | .tag seen, c :: r =>
    if c = '\x7d' ∧ r.head? = some '\x7d' then Piece.ofInside seen.reverse :: scan .closing r
    else scan (.tag (c :: seen)) r
  | .closing, _ :: r => scan (.text []) r

/-- The texts and tags of a line. -/
def pieces (line : List Char) : List Piece := scan (.text []) line

/-- The tags among the pieces of a line. -/
def tagsOf : List Piece → List (Sign × List Char)
  | [] => []
  | .text _ :: ps => tagsOf ps
  | .tag sign key :: ps => (sign, key) :: tagsOf ps

/-- The texts among the pieces of a line, together. -/
def textsOf : List Piece → List Char
  | [] => []
  | .text cs :: ps => cs ++ textsOf ps
  | .tag _ _ :: ps => textsOf ps

/-- A part of a source. -/
inductive Token where
  | text (cs : List Char)
  | tag (sign : Sign) (key : List Char)
  /-- A line with two opening braces that begin no tag. -/
  | malformed (line : List Char)
  deriving DecidableEq, Repr

/-- Do two opening braces come at some place? -/
def hasOpening : List Char → Bool
  | '\x7b' :: '\x7b' :: _ => true
  | _ :: r => hasOpening r
  | [] => false

/-- The token of a piece of a line. -/
def Piece.token (line : List Char) : Piece → Token
  | .text cs => if hasOpening cs then .malformed line else .text cs
  | .tag sign key => .tag sign key

/-- The tag of a line that holds nothing else, if it has a sign. -/
def ownLine? (ps : List Piece) : Option (Sign × List Char) :=
  match tagsOf ps with
  | [(sign, key)] => if sign ≠ .scalar ∧ Text.allBlank (textsOf ps) then some (sign, key) else none
  | _ => none

/-- The tokens of a line. -/
def lineTokens (line : List Char) : List Token :=
  match ownLine? (pieces line) with
  | some (sign, key) => [.tag sign key]
  | none => (pieces line).map (·.token line)

/-- The tokens of a source. -/
def tokens (source : List Char) : List Token := (Text.lines source).flatMap lineTokens

/-- Leaves comments out and puts the texts together that then stand side by side. -/
def settle : List Token → List Token
  | [] => []
  | .tag .comment _ :: ts => settle ts
  | .text cs :: ts =>
    match settle ts with
    | .text ds :: us => .text (cs ++ ds) :: us
    | us => .text cs :: us
  | t :: ts => t :: settle ts

end ThriftScala.Fragment
