import ResourceSymbols.Console.PictureNames
import ResourceSymbols.Number.Literal
import ResourceSymbols.Text.Blank
import ResourceSymbols.Text.Cut
import ResourceSymbols.Text.Sigma

/-!
# Pictures

A name between colons stands for a picture.  It may ask for the form of a sign or of
an emoji at its end.  A name that is none stays as it is.
-/

namespace ResourceSymbols.Console

/-- The characters that the code points in hexadecimal stand for. -/
def ofCodePoints (codes : String) : List Char :=
  (Text.splitText '-' codes).map fun digits =>
    Char.ofNat (Number.Literal.ofDigits 16 (digits.toList.filterMap Number.Literal.digitValue?))

/-- The picture with the given name. -/
def picture? (name : String) : Option (List Char) :=
  pictureNames.findSome? fun line =>
    (Text.splitText ' ' line).findSome? fun entry =>
      match Text.cutText '=' entry with
      | some (known, codes) => if known = name then some (ofCodePoints codes) else none
      | none => none

/-- A name without the form that it asks for at its end, and the character that asks
for it. -/
def splitForm (name : List Char) : List Char × List Char :=
  if "-text".toList.isSuffixOf name then (name.take (name.length - 5), ['\uFE0E'])
  else if "-emoji".toList.isSuffixOf name then (name.take (name.length - 6), ['\uFE0F'])
  else (name, [])

/-- The picture that a name between colons stands for. -/
def namedPicture? (name : List Char) : Option (List Char) :=
  let (plain, form) := splitForm name
  (picture? (String.ofList (Text.lowerText plain))).map (· ++ form)

/-- Whether `c` may stand in the name of a picture. -/
def inPictureName (c : Char) : Bool := c ≠ ':' && !Text.isBlank c

/-- The text with pictures in place of their names, `measure` being at least its
length. -/
def withPicturesFrom : Nat → List Char → List Char
  | 0, cs => cs
  | _ + 1, [] => []
  | measure + 1, c :: cs =>
    if c = ':' then
      let name := cs.takeWhile inPictureName
      match cs.drop name.length with
      | ':' :: rest =>
        (namedPicture? name).getD (':' :: name ++ [':']) ++ withPicturesFrom measure rest
      | _ => ':' :: withPicturesFrom measure cs
    else c :: withPicturesFrom measure cs

/-- The text with pictures in place of their names. -/
def withPictures (cs : List Char) : List Char := withPicturesFrom cs.length cs

end ResourceSymbols.Console
