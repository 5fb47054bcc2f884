import ResourceSymbols.Text.Accent
import ResourceSymbols.Text.Blank
import ResourceSymbols.Text.Block
import ResourceSymbols.Text.Script
import ResourceSymbols.Text.Sign

/-!
# What a text is judged by

The properties of a character that tell text from octets that were read in the wrong
way.
-/

namespace ResourceSymbols.Text.Disorder

/-- The properties of a character. -/
structure Traits where
  char : Char
  isPrintable : Bool
  isBlank : Bool
  isLetter : Bool
  isCapital : Bool
  isSmall : Bool
  isDigit : Bool
  isPunctuation : Bool
  isSign : Bool
  isLatin : Bool
  isUnspaced : Bool
  /-- The letter under the accent, if the character is an accented letter. -/
  base? : Option Char

namespace Traits

/-- The properties of `c`. -/
def of (c : Char) : Traits :=
  let letter := Text.isLetter c
  { char := c
    isPrintable := Text.isPrintable c
    isBlank := Text.isBlank c
    isLetter := letter
    isCapital := Text.isCapital c
    isSmall := Text.isSmall c
    isDigit := !letter && Text.isDigit c
    isPunctuation := Text.isPunctuation c
    isSign := Text.isSign c
    isLatin := letter && Text.isLatin c
    isUnspaced := letter && Text.isUnspaced c
    base? := if letter then unaccented? c else none }

/-- Whether the character is an accented letter. -/
def isAccented (t : Traits) : Bool := t.base?.isSome

/-- Whether the character belongs to markup or to a list, where it says nothing. -/
def isStructural (t : Traits) : Bool := "<>=:/&;\x7b\x7d[],|\"-()".contains t.char

/-- Whether the character is a small picture. -/
def isPicture (t : Traits) : Bool :=
  (block? t.char).any fun b => b.mentions "Emoticons" || b.mentions "Pictographs"

/-- Whether the character ends a word. -/
def endsWord (t : Traits) : Bool :=
  t.isBlank || t.isPunctuation || "\uff5c+<>".contains t.char

end Traits

end ResourceSymbols.Text.Disorder
