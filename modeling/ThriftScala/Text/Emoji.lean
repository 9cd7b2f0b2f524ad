/-
  Emoji by codes: a name between two colons stands for an emoji.

  A code holds no blanks.  Its name may end with a skin tone, if the emoji takes one, and behind
  the name `-text` or `-emoji` chooses how the emoji is drawn.  Case does not matter.  A code that
  names nothing stays as it is, and its second colon begins no other code.
-/
import ThriftScala.Text.Blank
import ThriftScala.Text.Case
import ThriftScala.Text.EmojiTable
import ThriftScala.Text.Split

namespace ThriftScala.Text.Emoji

/-! ## Names -/

/-- The emoji of a name that tells no skin tone. -/
def plain? (name : List Char) : Option (List Char) :=
  (namedEmoji.find? fun e => (splitAt ' ' e.2.toList).contains name).map (·.1.toList)

/-- The skin tones, by what a name ends with. -/
def skinTones : List (String × Char) :=
  [("_light_skin_tone", '🏻'), ("_medium-light_skin_tone", '🏼'), ("_medium_skin_tone", '🏽'),
   ("_medium-dark_skin_tone", '🏾'), ("_dark_skin_tone", '🏿')]

/-- Puts a skin tone behind the first character.  It makes the character an emoji, so a selector
    that asks for one falls away. -/
def withTone (tone : Char) : List Char → List Char
  | [] => []
  | c :: '\ufe0f' :: r => c :: tone :: r
  | c :: r => c :: tone :: r

/-- The start of a text that ends so. -/
def without? (ending cs : List Char) : Option (List Char) :=
  if ending.isSuffixOf cs then some (cs.take (cs.length - ending.length)) else none

/-- The emoji of a name that ends with a skin tone. -/
def toned? (name : List Char) : Option (List Char) :=
  skinTones.findSome? fun e => do
    let base ← without? e.1.toList name
    if tonedEmoji.contains (.ofList base) then (plain? base).map (withTone e.2) else none

/-- The emoji of a name. -/
def named? (name : List Char) : Option (List Char) := plain? name <|> toned? name

/-! ## Codes -/

/-- How an emoji can be drawn: what a code ends with, and the selector behind the emoji. -/
def presentations : List (String × Char) := [("-text", '\ufe0e'), ("-emoji", '\ufe0f')]

/-- The emoji of a code without its colons. -/
def ofCode? (code : List Char) : Option (List Char) :=
  match presentations.findSome? fun e => (without? e.1.toList code).map fun name => (name, e.2) with
  | some (name, selector) => (named? (lower name)).map (· ++ [selector])
  | none => named? (lower code)

/-- What stands between a colon and the next one, if no blank does. -/
def codeIn? (behind : List Char) : Option (List Char) :=
  let code := behind.takeWhile fun c => c ≠ ':' && !isBlank c
  if (behind.drop code.length).head? = some ':' then some code else none

/-- Writes emoji for codes; `skip` characters belong to a code that is done. -/
def replaceFrom (skip : Nat) : List Char → List Char
  | [] => []
  | c :: r =>
    match skip with
    | skip + 1 => replaceFrom skip r
    | 0 =>
      if c = ':' then
        match codeIn? r with
        | some code =>
          ((ofCode? code).getD (':' :: code ++ [':'])) ++ replaceFrom (code.length + 1) r
        | none => ':' :: replaceFrom 0 r
      else c :: replaceFrom 0 r

/-- Writes emoji for the codes of a text. -/
def replaceCodes (cs : List Char) : List Char := replaceFrom 0 cs

end ThriftScala.Text.Emoji
