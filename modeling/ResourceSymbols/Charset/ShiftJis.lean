import ResourceSymbols.Charset.Kanji
import ResourceSymbols.Charset.Wide

/-!
# Shift JIS

Japanese.  A pair of octets spells a character of two rows of a plane.  There is the
form of the standard, the extended one of its vendors, which adds rows, keeps others for
private use, and reads a few signs in another way, and the form of the later standard
with rows of both planes.
-/

namespace ResourceSymbols.Charset.ShiftJis

/-- The second octets of a pair. -/
def cells : List (Nat × Nat) := [(0x40, 0x7E), (0x80, 0xFC)]

/-- The first octets of a pair. -/
def leads : List (Nat × Nat) := [(0x81, 0x9F), (0xE0, 0xFC)]

/-- What the place of a pair, by its row and its cell, says. -/
def atPlace {α : Type} (found : Nat → Nat → Option α) (a b : Nat) : Option α :=
  (cell? leads a).bind fun lead =>
    (cell? cells b).bind fun cell => found (0xA1 + 2 * lead + cell / 94) (cell % 94)

/-- What an octet spells alone: a character below 80, or a kana of half width. -/
def alone (octet : Nat) : Option Char := (ascii? octet).or (Kanji.halfWidth? octet)

/-- What an octet spells alone in the extended form. -/
def extendedAlone (octet : Nat) : Option Char :=
  (alone octet).or <|
    if octet = 0x80 then some '\u0080'
    else if octet = 0xA0 then some '\uf8f0'
    else if 0xFD ≤ octet then some (Char.ofNat (octet - 0xFD + 0xF8F1))
    else none

/-- What a pair of octets spells in the extended form. -/
def extended? (a b : Nat) : Option Char :=
  if 0xF0 ≤ a ∧ a ≤ 0xF9 then
    (cell? cells b).map fun cell => Char.ofNat (0xE000 + (a - 0xF0) * 188 + cell)
  else atPlace Kanji.grid.char? a b

/-- What an octet spells alone in the form of the later standard. -/
def laterAlone (octet : Nat) : Option Char :=
  if octet = 0x5C then some '¥' else if octet = 0x7E then some '‾' else alone octet

/-- The rows of the second plane that come after the first one, in pairs. -/
def secondRows : List (Nat × Nat) := [
  (0xA1, 0xA8), (0xA3, 0xA4), (0xA5, 0xAC), (0xAD, 0xAE), (0xAF, 0xEE)]

/-- The row of the second plane for a row that comes after those of the first one. -/
def secondRow (row : Nat) : Nat :=
  match secondRows[(row - 0xFF) / 2]? with
  | some (odd, even) => if row % 2 = 1 then odd else even
  | none => row - 0xFF - 2 * secondRows.length + 0xEF

/-- The characters at a place in the form of the later standard with the given planes. -/
def later? (first : Nat → Nat → Option (List Char)) (second : Nat → Nat → Option Char)
    (row cell : Nat) : Option (List Char) :=
  if (row, cell) = (0xA1, 31) then some ['\\']
  else if (row, cell) = (0xA2, 17) then some ['~']
  else if row < 0xFF then first row cell
  else Text.Spelling.single second (secondRow row) cell

/-- The charsets. -/
def charsets : List Wide := [
  ⟨"cp932", "Japanese", .ofPairs extendedAlone (Text.Spelling.single extended?)⟩,
  ⟨"shift-jis", "Japanese",
    .ofPairs alone (Text.Spelling.single (atPlace Kanji.standard?))⟩,
  ⟨"shift-jis-2004", "Japanese",
    .ofPairs laterAlone (atPlace (later? Kanji.later? Kanji.second.char?))⟩,
  ⟨"shift-jisx0213", "Japanese",
    (Text.Spelling.ofPairs laterAlone
      (atPlace (later? Kanji.early? Kanji.earlySecond?))).passing fun a b =>
        (atPlace Kanji.recent? a b).isSome⟩]

end ResourceSymbols.Charset.ShiftJis
