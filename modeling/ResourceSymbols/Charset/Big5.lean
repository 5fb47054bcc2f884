import ResourceSymbols.Charset.Big5Table
import ResourceSymbols.Charset.Grid
import ResourceSymbols.Charset.HongKongTable
import ResourceSymbols.Charset.Wide

/-!
# Big5

Traditional Chinese as it is spelt in Taiwan, the supplement of Hong Kong, which takes
the place of some rows, and the form of the vendors, which adds some cells and reads a
few signs in another way.
-/

namespace ResourceSymbols.Charset.Big5

/-- The second octets of a pair. -/
def cells : List (Nat × Nat) := [(0x40, 0x7E), (0xA1, 0xFE)]

/-- The rows of Taiwan. -/
def grid : Grid := .ofLines 157 big5Rows

/-- The rows of Hong Kong. -/
def supplement : Grid := .ofLines 157 hongKongRows

/-- The first octets of the rows of the supplement. -/
def supplementRows : List (Nat × Nat) := [(0x87, 0xA0), (0xC6, 0xC8), (0xF9, 0xFE)]

/-- Pairs of the supplement that spell a letter and a mark on it. -/
def marked : List ((Nat × Nat) × List Char) := [
  ((0x88, 0x62), ['\u00ca', '\u0304']), ((0x88, 0x64), ['\u00ca', '\u030c']),
  ((0x88, 0xA3), ['\u00ea', '\u0304']), ((0x88, 0xA5), ['\u00ea', '\u030c'])]

/-- The signs that the vendors read in another way. -/
def vendorSigns : List ((Nat × Nat) × Char) := [
  ((0xA1, 0x45), '‧'), ((0xA1, 0x4E), '﹑'), ((0xA1, 0xC2), '¯'), ((0xA1, 0xE3), '～'),
  ((0xA1, 0xF2), '⊕'), ((0xA1, 0xF3), '⊙'), ((0xA2, 0x41), '∕'), ((0xA2, 0x42), '﹨'),
  ((0xA2, 0x44), '￥'), ((0xA2, 0x46), '￠'), ((0xA2, 0x47), '￡'), ((0xA3, 0xE1), '€')]

/-- What the vendors add to the row F9, from the octet D6 on. -/
def vendorCells : Array Char := "碁銹裏墻恒粧嫺╔╦╗╠╬╣╚╩╝╒╤╕╞╪╡╘╧╛╓╥╖╟╫╢╙╨╜║═╭╮╰╯▓".toList.toArray

/-- What a pair of octets spells in Taiwan. -/
def plain? (a b : Nat) : Option Char := (cell? cells b).bind (grid.char? a)

/-- What a pair of octets spells with the supplement of Hong Kong. -/
def supplemented? (a b : Nat) : Option (List Char) :=
  if (cell? supplementRows a).isSome then
    (marked.lookup (a, b)).or
      (((cell? cells b).bind (supplement.char? a)).map fun c => [c])
  else Text.Spelling.single plain? a b

/-- What a pair of octets spells in the form of the vendors. -/
def vendor? (a b : Nat) : Option Char :=
  (vendorSigns.lookup (a, b)).or <| (plain? a b).or <|
    if a = 0xF9 ∧ 0xD6 ≤ b then vendorCells[b - 0xD6]? else none

/-- The charsets. -/
def charsets : List Wide := [
  ⟨"big5", "Chinese", .ofPairs ascii? (Text.Spelling.single plain?)⟩,
  ⟨"big5hkscs", "Chinese", .ofPairs ascii? supplemented?⟩,
  ⟨"cp950", "Chinese", .ofPairs ascii? (Text.Spelling.single vendor?)⟩]

end ResourceSymbols.Charset.Big5
