/-
  Names of characters.

  Most names are listed; case does not matter in them.  The others are made by a rule from what
  they name: some scripts and the compatibility ideographs add the code point to a common name,
  unified ideographs do so with four or five capital digits, and the syllables of Hangul are
  spelled out letter by letter.
-/
import ThriftScala.Text.Blank
import ThriftScala.Text.NameTable
import ThriftScala.Text.Ranges
import ThriftScala.Text.Split

namespace ThriftScala.Text.Name

/-! ## Listed names -/

/-- The words of a listed name behind the words of the name before it. -/
def wordsAfter (before : List (List Char)) : List Char → List (List Char)
  | [] => before
  | shared :: r => before.take (shared.toNat - '0'.toNat) ++ splitAt ' ' r

/-- Is there a name of these words in a part of the list? -/
def isIn (name before : List (List Char)) : List String → Bool
  | [] => false
  | entry :: entries =>
    let words := wordsAfter before (entry.toList.dropWhile isBlank)
    words == name || isIn name words entries

/-- Is the name in the list? -/
def isListed (name : List Char) : Bool := isIn (splitAt ' ' name) [] (listedNames.splitOn ",")

/-! ## Names with a code point -/

/-- The number that capital hexadecimal digits write. -/
def codePoint? (digits : List Char) : Option Nat :=
  digits.foldl (fun sum c => do
    let value ← "0123456789ABCDEF".toList.idxOf? c
    pure ((← sum) * 16 + value)) (some 0)

/-- Do digits write one of the code points? -/
def isCodePointOf (codePoints : Ranges) (digits : List Char) : Bool :=
  (codePoint? digits).any fun n => codePoints.any fun r => r.1 ≤ n && n ≤ r.2

/-- Common names with the code points they are added to. -/
def codePointNames : List (String × Ranges) :=
  [("CJK COMPATIBILITY IDEOGRAPH-", [(0xF900, 0xFA6D), (0xFA70, 0xFAD9), (0x2F800, 0x2FA1D)]),
   ("KHITAN SMALL SCRIPT CHARACTER-", [(0x18B00, 0x18CD5)]),
   ("NUSHU CHARACTER-", [(0x1B170, 0x1B2FB)])]

/-- Is the name a common name with a code point? -/
def isWithCodePoint (name : List Char) : Bool :=
  codePointNames.any fun e =>
    let digits := name.drop e.1.length
    e.1.toList.isPrefixOf name && digits.head? ≠ some '0' && isCodePointOf e.2 digits

/-- The name that unified ideographs have in common. -/
def unifiedName : List Char := "CJK UNIFIED IDEOGRAPH-".toList

/-- The unified ideographs. -/
def unifiedIdeographs : Ranges :=
  [(0x3400, 0x4DBF), (0x4E00, 0x9FFF), (0x20000, 0x2A6DF), (0x2A700, 0x2B738), (0x2B740, 0x2B81D),
   (0x2B820, 0x2CEA1), (0x2CEB0, 0x2EBE0), (0x30000, 0x3134A)]

/-- Are these the digits of a unified ideograph? -/
def isUnified (digits : List Char) : Bool :=
  (digits.length = 4 || digits.length = 5) && isCodePointOf unifiedIdeographs digits

/-! ## Syllables of Hangul -/

/-- The name that syllables have in common. -/
def syllableName : List Char := "HANGUL SYLLABLE ".toList

/-- Spellings with blanks between them. -/
def spelled (s : String) : List (List Char) := splitAt ' ' s.toList

/-- First consonants; there may be none. -/
def initials : List (List Char) := [] :: spelled "G GG N D DD R M B BB S SS J JJ C K T P H"

/-- Vowels. -/
def vowels : List (List Char) :=
  spelled "A AE YA YAE EO E YEO YE O WA WAE OE YO U WEO WE WI YU EU YI I"

/-- Last consonants; there may be none. -/
def finals : List (List Char) :=
  [] :: spelled "G GG GS N NJ NH D L LG LM LB LS LT LP LH M B BS S SS NG J C K T P H"

/-- Is the letter one of those that vowels are spelled with? -/
def isVowelLetter (c : Char) : Bool := "AEIOUWY".toList.contains c

/-- Is a syllable spelled like this? -/
def isSyllable (cs : List Char) : Bool :=
  let behind := cs.dropWhile (!isVowelLetter ·)
  initials.contains (cs.takeWhile (!isVowelLetter ·))
    && vowels.contains (behind.takeWhile isVowelLetter)
    && finals.contains (behind.dropWhile isVowelLetter)

/-! ## All names -/

/-- Does a character have this name? -/
def isName (name : List Char) : Bool :=
  if syllableName.isPrefixOf name then isSyllable (name.drop syllableName.length)
  else if unifiedName.isPrefixOf name then isUnified (name.drop unifiedName.length)
  else
    let upper := name.map Char.toUpper
    isWithCodePoint upper || isListed upper

end ThriftScala.Text.Name
