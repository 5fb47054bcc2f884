import ResourceSymbols.Text.CharSpan

/-!
# Blanks

The white space of all scripts, and what is left of a text when the white space
at its ends is taken off.
-/

namespace ResourceSymbols.Text

/-- Runs of code points that are white space. -/
def blankSpans : List (Nat × Nat) := [
  (0x9, 0xD), (0x1C, 0x20), (0x85, 0x85), (0xA0, 0xA0), (0x1680, 0x1680), (0x2000, 0x200A),
  (0x2028, 0x2029), (0x202F, 0x202F), (0x205F, 0x205F), (0x3000, 0x3000)]

/-- Whether `c` is white space. -/
def isBlank (c : Char) : Bool := inSpans blankSpans c

/-- The list without the members at either end that satisfy `p`. -/
def trimBoth {α : Type} (p : α → Bool) (xs : List α) : List α :=
  ((xs.dropWhile p).reverse.dropWhile p).reverse

/-- The words of a text, `word` being what was read of the first, backwards. -/
def wordsFrom (word : List Char) : List Char → List (List Char)
  | [] => if word.isEmpty then [] else [word.reverse]
  | c :: cs =>
    if isBlank c then
      if word.isEmpty then wordsFrom [] cs else word.reverse :: wordsFrom [] cs
    else wordsFrom (c :: word) cs

/-- The words of a text, which stand between its blanks. -/
def words (cs : List Char) : List (List Char) := wordsFrom [] cs

end ResourceSymbols.Text
