import ResourceSymbols.Charset.Grid
import ResourceSymbols.Charset.KanjiTable
import ResourceSymbols.Charset.LaterKanjiTable

/-!
# Kanji

The Japanese standards order their characters in planes of 94 rows with 94 cells; a row
is numbered from A1 on.  The first standard has one plane.  A supplement to it fills
rows of a second plane, and a later standard, of two editions, open cells of both.
-/

namespace ResourceSymbols.Charset.Kanji

/-- The rows of the standard and of the vendors. -/
def grid : Grid := .ofLines 94 kanjiRows

/-- The rows of the standard. -/
def standardRows : List (Nat × Nat) := [(0xA1, 0xA8), (0xB0, 0xF4)]

/-- The signs that the standard reads in another way than the vendors, each with its
row and its cell. -/
def standardSigns : List ((Nat × Nat) × Char) := [
  ((0xA1, 32), '\u301c'), ((0xA1, 33), '\u2016'), ((0xA1, 60), '\u2212'),
  ((0xA1, 80), '\u00a2'), ((0xA1, 81), '\u00a3'), ((0xA2, 43), '\u00ac')]

/-- The character in a cell of the standard. -/
def standard? (row cell : Nat) : Option Char :=
  if (cell? standardRows row).isSome then
    (standardSigns.lookup (row, cell)).or (grid.char? row cell)
  else none

/-- What the later standard adds to the first plane. -/
def added : Grid := .ofLines 94 laterKanjiRows

/-- The cells of the later standard with a letter and a mark on it. -/
def marked : List ((Nat × Nat) × List Char) := [
  ((0xA4, 86), ['か', '\u309a']), ((0xA4, 87), ['き', '\u309a']),
  ((0xA4, 88), ['く', '\u309a']), ((0xA4, 89), ['け', '\u309a']),
  ((0xA4, 90), ['こ', '\u309a']), ((0xA5, 86), ['カ', '\u309a']),
  ((0xA5, 87), ['キ', '\u309a']), ((0xA5, 88), ['ク', '\u309a']),
  ((0xA5, 89), ['ケ', '\u309a']), ((0xA5, 90), ['コ', '\u309a']),
  ((0xA5, 91), ['セ', '\u309a']), ((0xA5, 92), ['ツ', '\u309a']),
  ((0xA5, 93), ['ト', '\u309a']), ((0xA6, 87), ['ㇷ', '\u309a']),
  ((0xAB, 35), ['æ', '\u0300']), ((0xAB, 39), ['ɔ', '\u0300']),
  ((0xAB, 40), ['ɔ', '\u0301']), ((0xAB, 41), ['ʌ', '\u0300']),
  ((0xAB, 42), ['ʌ', '\u0301']), ((0xAB, 43), ['ə', '\u0300']),
  ((0xAB, 44), ['ə', '\u0301']), ((0xAB, 45), ['ɚ', '\u0300']),
  ((0xAB, 46), ['ɚ', '\u0301']), ((0xAB, 68), ['˩', '˥']), ((0xAB, 69), ['˥', '˩'])]

/-- The characters in a cell of the first plane of the later standard. -/
def later? (row cell : Nat) : Option (List Char) :=
  (marked.lookup (row, cell)).or <|
    ((standard? row cell).or (added.char? row cell)).map fun c => [c]

/-- The second plane. -/
def second : Grid := .ofLines 94 secondPlaneRows

/-- The cells of the first plane that the later standard got in its second edition. -/
def recentCells : List (Nat × Nat) := [
  (0xAE, 0), (0xAF, 93), (0xCF, 51), (0xCF, 93), (0xF4, 6), (0xFE, 89), (0xFE, 90),
  (0xFE, 91), (0xFE, 92), (0xFE, 93)]

/-- The characters in a cell of the first plane in the first edition of the later
standard. -/
def early? (row cell : Nat) : Option (List Char) :=
  if recentCells.contains (row, cell) then none else later? row cell

/-- The characters in a cell of the first plane that its first edition leaves open. -/
def recent? (row cell : Nat) : Option (List Char) :=
  if recentCells.contains (row, cell) then later? row cell else none

/-- The character in a cell of the second plane in the first edition of the later
standard. -/
def earlySecond? (row cell : Nat) : Option Char :=
  if (row, cell) = (0xFD, 26) then some '鬝' else second.char? row cell

/-- The rows of the second plane that the supplement fills. -/
def supplementRows : List (Nat × Nat) := [
  (0xA2, 0xA2), (0xA6, 0xA7), (0xA9, 0xAB), (0xB0, 0xED)]

/-- The character in a cell of the supplement. -/
def supplement? (row cell : Nat) : Option Char :=
  if (cell? supplementRows row).isSome then second.char? row cell else none

/-- The kana of half width that an octet stands for. -/
def halfWidth? (octet : Nat) : Option Char :=
  if 0xA1 ≤ octet ∧ octet ≤ 0xDF then some (Char.ofNat (octet - 0xA1 + 0xFF61)) else none

end ResourceSymbols.Charset.Kanji
