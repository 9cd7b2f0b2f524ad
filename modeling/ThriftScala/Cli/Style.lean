/-
  Styles of text on a console, written as words.

  A style sets attributes, a colour, a background and a link; a later word wins over an earlier
  one.  Styles that come to the same are written in the same way by `Style.text`, and `normal`
  brings any text there: what is no style is lowered only.

  A colour is a name, a number, six hexadecimal digits, or three numbers.  A text with the form of
  three numbers of which one is missing is worse than no colour: it is an error wherever a style is
  looked for.
-/
import ThriftScala.Cli.ColorTable
import ThriftScala.Text.Blank
import ThriftScala.Text.Case
import ThriftScala.Text.Digit
import ThriftScala.Text.Split

namespace ThriftScala.Cli

/-! ## Colours -/

/-- Why a text gives no style. -/
inductive StyleFault where
  | unknown
  /-- One of the three numbers of a colour is missing. -/
  | missingNumber
  deriving DecidableEq, Repr

/-- What stands in brackets behind a word. -/
def inBrackets? (word : String) (cs : List Char) : Option (List Char) :=
  let lead := word.toList ++ ['(']
  let body := (cs.drop lead.length).dropLast
  if cs = lead ++ body ++ [')'] then some body else none

/-- Does the text name a colour? -/
def isColorName (s : String) : Bool :=
  s = "default" || colorNames.contains s
    || greyLevels.any fun n => s = "grey" ++ toString n || s = "gray" ++ toString n

/-- Is the character one of the hexadecimal digits with small letters? -/
def isLowerHex (c : Char) : Bool := c.isDigit || ('a' ≤ c && c ≤ 'f')

/-- Is the text the number of a colour, of at most three digits? -/
def isColorNumber (cs : List Char) : Bool :=
  1 ≤ cs.length && cs.length ≤ 3 && cs.all Char.isDigit && Text.numberOf cs ≤ 255

/-- Are the texts the three numbers of a colour? -/
def readComponents (parts : List (List Char)) : Except StyleFault Unit :=
  if parts.length ≠ 3 then .error .unknown
  else if parts.any (·.isEmpty) then .error .missingNumber
  else if parts.all fun p => Text.numberOf p ≤ 255 then .ok ()
  else .error .unknown

/-- The colour of a word, as it is written. -/
def readColor (word : List Char) : Except StyleFault (List Char) :=
  let cs := Text.lower word
  if isColorName (.ofList cs) then .ok cs
  else
    match cs, inBrackets? "color" cs, inBrackets? "rgb" cs with
    | '#' :: digits, _, _ =>
      if digits.length = 6 && digits.all isLowerHex then .ok cs else .error .unknown
    | _, some number, _ => if isColorNumber number then .ok cs else .error .unknown
    | _, _, some numbers =>
      if !numbers.isEmpty && numbers.all fun c => Text.isDigit c || c == ',' then
        (readComponents (Text.splitAt ',' numbers)).map fun _ => cs
      else .error .unknown
    | _, none, none => .error .unknown

/-! ## Styles -/

/-- What a style can turn on or off. -/
inductive Attribute where
  | bold
  | dim
  | italic
  | underline
  | blink
  | blink2
  | reverse
  | conceal
  | strike
  | underline2
  | frame
  | encircle
  | overline
  deriving DecidableEq, Repr

/-- All attributes, in the order in which they are written, with their words; the first is the one
    that is written. -/
def attributeWords : List (Attribute × List String) :=
  [(.bold, ["bold", "b"]), (.dim, ["dim", "d"]), (.italic, ["italic", "i"]),
   (.underline, ["underline", "u"]), (.blink, ["blink"]), (.blink2, ["blink2"]),
   (.reverse, ["reverse", "r"]), (.conceal, ["conceal", "c"]), (.strike, ["strike", "s"]),
   (.underline2, ["underline2", "uu"]), (.frame, ["frame"]), (.encircle, ["encircle"]),
   (.overline, ["overline", "o"])]

/-- The attribute of a word. -/
def attribute? (word : List Char) : Option Attribute :=
  (attributeWords.find? fun e => e.2.contains (.ofList word)).map (·.1)

/-- A style. -/
structure Style where
  /-- What was turned on or off; the last setting is in front. -/
  attributes : List (Attribute × Bool) := []
  color : Option (List Char) := none
  background : Option (List Char) := none
  link : Option (List Char) := none
  deriving DecidableEq, Repr

namespace Style

/-- Turns an attribute on or off. -/
def turn (s : Style) (a : Attribute) (value : Bool) : Style :=
  { s with attributes := (a, value) :: s.attributes }

/-- Adds words to a style. -/
def addWords (s : Style) : List (List Char) → Except StyleFault Style
  | [] => .ok s
  | word :: words =>
    let lowered := Text.lower word
    if lowered = "on".toList then
      match words with
      | [] => .error .unknown
      | color :: words => do addWords { s with background := some (← readColor color) } words
    else if lowered = "not".toList then
      match words with
      | [] => .error .unknown
      | name :: words =>
        match attribute? name with
        | some a => addWords (s.turn a false) words
        | none => .error .unknown
    else if lowered = "link".toList then
      match words with
      | [] => .error .unknown
      | target :: words => addWords { s with link := some target } words
    else
      match attribute? lowered with
      | some a => addWords (s.turn a true) words
      | none => do addWords { s with color := some (← readColor lowered) } words

/-- The style that a text writes. -/
def read (cs : List Char) : Except StyleFault Style :=
  if Text.trimWhile Text.isBlank cs = "none".toList then .ok {} else addWords {} (Text.words cs)

/-- The words of an attribute that was turned on or off. -/
def attributeText (s : Style) (e : Attribute × List String) : List (List Char) :=
  let word := (e.2.headD "").toList
  match s.attributes.lookup e.1 with
  | some true => [word]
  | some false => ["not".toList, word]
  | none => []

/-- The style in words: attributes, colour, background, link. -/
def text (s : Style) : List Char :=
  let words := attributeWords.flatMap s.attributeText
    ++ s.color.toList
    ++ (s.background.map fun c => ["on".toList, c]).getD []
    ++ (s.link.map fun l => ["link".toList, l]).getD []
  if words.isEmpty then "none".toList else Text.joinWith [' '] words

/-- What a text comes to as a style; one that writes none is lowered only. -/
def normal (cs : List Char) : Except StyleFault (List Char) :=
  match read cs with
  | .ok s => .ok s.text
  | .error .unknown => .ok (Text.lower (Text.trimWhile Text.isBlank cs))
  | .error .missingNumber => .error .missingNumber

end Style

end ThriftScala.Cli
