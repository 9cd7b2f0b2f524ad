/-
  Console markup: text with style tags in brackets.

  A tag is a bracketed text that begins with a small letter, `#`, `/` or `@`.  Backslashes in front
  of a tag stand for half as many backslashes, and an odd one makes the tag plain text.  A tag
  opens a style; one with `/` closes the style that comes to the same, or the last one if it names
  none.  A tag with `@` handles an event, and its parameters must be readable when it is closed.
  Styles left open end with the text.  Codes between colons stand for emoji.

  `pieces` tells texts and tags apart, `follow` keeps track of the open styles, and `lines` gives
  what a console shows.  Colours are not shown, but a style that reaches the console is looked at.
-/
import ThriftScala.Cli.Handler
import ThriftScala.Cli.Style
import ThriftScala.Text.Emoji
import ThriftScala.Text.Tabs

namespace ThriftScala.Cli.Markup

/-- What is wrong with a marked text. -/
inductive Fault where
  /-- A style is closed that is not open; the name is empty for the last style. -/
  | notOpen (name : String)
  /-- The parameters of a handler cannot be read. -/
  | badParameters (parameters : String)
  /-- A colour in three numbers lacks one. -/
  | badColor (style : String)
  deriving DecidableEq, Repr

/-- What a fault says. -/
def Fault.message : Fault → String
  | .notOpen name => "closing tag [/" ++ name ++ "] closes nothing"
  | .badParameters parameters => "unreadable parameters: " ++ parameters
  | .badColor style => "a number is missing in a colour: " ++ style

/-! ## Pieces -/

/-- A piece of marked text. -/
inductive Piece where
  | text (cs : List Char)
  /-- A tag with the text inside its brackets. -/
  | tag (inside : List Char)
  deriving DecidableEq, Repr

/-- Can the character begin a tag? -/
def beginsTag (c : Char) : Bool := c.isLower || c == '#' || c == '/' || c == '@'

/-- The inside of the tag whose opening bracket stands before the text, if it is one. -/
def tagInside? : List Char → Option (List Char)
  | [] => none
  | c :: r =>
    let body := r.takeWhile fun d => d ≠ '[' && d ≠ ']'
    if beginsTag c && (r.drop body.length).head? == some ']' then some (c :: body) else none

/-- A tag behind some backslashes. -/
def slashedTag (slashes : Nat) (inside : List Char) : List Piece :=
  [.text (List.replicate (slashes / 2) '\\'),
   if slashes % 2 = 0 then .tag inside else .text ('[' :: inside ++ [']'])]

/-- Tells texts and tags apart.  `skip` characters belong to a tag that is done, `before` is the
    text before in reverse, and `slashes` backslashes stand behind that.  The last of them is not
    written before a bracket that begins no tag. -/
def piecesFrom (skip slashes : Nat) (before : List Char) : List Char → List Piece
  | [] => [.text (before.reverse ++ List.replicate slashes '\\')]
  | c :: r =>
    match skip with
    | skip + 1 => piecesFrom skip slashes before r
    | 0 =>
      if c = '\\' then piecesFrom 0 (slashes + 1) before r
      else if c = '[' then
        match tagInside? r with
        | some inside =>
          .text before.reverse :: slashedTag slashes inside
            ++ piecesFrom (inside.length + 1) 0 [] r
        | none => piecesFrom 0 0 ('[' :: List.replicate (slashes - 1) '\\' ++ before) r
      else piecesFrom 0 0 (c :: List.replicate slashes '\\' ++ before) r

/-- The texts and tags of a marked text. -/
def pieces (cs : List Char) : List Piece := piecesFrom 0 0 [] cs

/-! ## Styles -/

/-- A style that is open. -/
structure Opened where
  /-- How many characters were shown before. -/
  start : Nat
  name : List Char
  parameters : Option (List Char)
  deriving DecidableEq, Repr

/-- A style from one character to another. -/
structure Span where
  start : Nat
  stop : Nat
  style : List Char
  deriving DecidableEq, Repr

/-- What a style with this name comes to. -/
def normalStyle (name : List Char) : Except Fault (List Char) :=
  (Style.normal name).mapError fun _ => .badColor (.ofList name)

/-- The span of a style that ends; parameters are more words of the style. -/
def Opened.upTo (o : Opened) (stop : Nat) : Span :=
  ⟨o.start, stop, o.name ++ (o.parameters.map (' ' :: ·)).getD []⟩

/-- The spans of a style that is closed by a tag; a handler has none. -/
def Opened.close (o : Opened) (stop : Nat) : Except Fault (List Span) :=
  if o.name.head? = some '@' then
    if o.parameters.all fun ps => ps.isEmpty || Handler.isReadable ps then .ok []
    else .error (.badParameters (.ofList (o.parameters.getD [])))
  else .ok [o.upTo stop]

/-- The last of the open styles with this name, or the last of all if there is no name, and the
    others. -/
def takeLast? (name : List Char) : List Opened → Option (Opened × List Opened)
  | [] => none
  | o :: os =>
    if name.isEmpty || o.name = name then some (o, os)
    else (takeLast? name os).map fun found => (found.1, o :: found.2)

/-- The style that a tag opens. -/
def openTag (start : Nat) (inside : List Char) : Except Fault Opened := do
  let name := inside.takeWhile (· ≠ '=')
  let parameters := if inside.contains '=' then some (inside.drop (name.length + 1)) else none
  pure ⟨start, ← normalStyle name, parameters⟩

/-- Closes a style: the styles that stay open, and the spans of the closed one. -/
def closeTag (stop : Nat) (opened : List Opened) (inside : List Char) :
    Except Fault (List Opened × List Span) := do
  let name := Text.trimWhile Text.isBlank (inside.takeWhile (· ≠ '='))
  let name ← if name.isEmpty then pure [] else normalStyle name
  match takeLast? name opened with
  | none => .error (.notOpen (.ofList name))
  | some (o, opened) => pure (opened, ← o.close stop)

/-- Is the character a control that a console does not show: bell, backspace, vertical tab, form
    feed, carriage return? -/
def isHidden (c : Char) : Bool :=
  c == '\x07' || c == '\x08' || c == '\x0b' || c == '\x0c' || c == '\x0d'

/-- The characters that are shown and their styles.  `count` characters are shown before, and the
    last style that was opened is in front of `opened`. -/
def follow (count : Nat) (opened : List Opened) : List Piece → Except Fault (List Char × List Span)
  | [] => .ok ([], opened.map (·.upTo count))
  | .text cs :: ps => do
    let shown := (Text.Emoji.replaceCodes cs).filter (!isHidden ·)
    let (cs, spans) ← follow (count + shown.length) opened ps
    pure (shown ++ cs, spans)
  | .tag inside :: ps =>
    match inside with
    | '/' :: inside => do
      let (opened, closed) ← closeTag count opened inside
      let (cs, spans) ← follow count opened ps
      pure (cs, closed ++ spans)
    | inside => do follow count ((← openTag count inside) :: opened) ps

/-! ## Lines on a console -/

/-- The lines of a text on a console. -/
def shownLines (cs : List Char) : List String :=
  (Text.splitAt '\n' cs).map fun line => .ofList (Text.expandTabsByCells 8 line)

/-- Does a style reach the console?  In a text that is cut at line ends or tabs, it does if it has
    a character other than a line end. -/
def Span.reaches (cs : List Char) (s : Span) : Bool :=
  cs.all (fun c => c ≠ '\n' && c ≠ '\t') || ((cs.drop s.start).take (s.stop - s.start)).any (· ≠ '\n')

/-- Looks at a style that reaches the console.  A style that there is not has no effect. -/
def Span.check (s : Span) : Except Fault Unit :=
  match Style.read s.style with
  | .error .missingNumber => .error (.badColor (.ofList s.style))
  | _ => .ok ()

/-- The characters that a marked text shows, and their styles. -/
def shown (s : String) : Except Fault (List Char × List Span) := follow 0 [] (pieces s.toList)

/-- The lines of a marked text. -/
def lines (s : String) : Except Fault (List String) := do
  let (cs, spans) ← shown s
  (spans.filter (·.reaches cs)).forM Span.check
  pure (shownLines cs)

end ThriftScala.Cli.Markup
