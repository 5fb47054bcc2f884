import ResourceSymbols.Charset.Kanji
import ResourceSymbols.Charset.Wide

/-!
# EUC for Japanese

A pair of octets spells a character of the first plane, one with the octet 8F in front
a character of the second one, and an octet after 8E a kana of half width.
-/

namespace ResourceSymbols.Charset.EucJp

/-- The cell of a row that an octet chooses. -/
def cellOf? (octet : UInt8) : Option Nat := cell? [(0xA1, 0xFE)] octet.toNat

/-- The spelling with two planes. -/
def spelling (first : Nat → Nat → Option (List Char)) (second : Nat → Nat → Option Char) :
    Text.Spelling
  | 0x8E, b :: _ => .ofOption 1 ((Kanji.halfWidth? b.toNat).map ([·]))
  | 0x8F, b :: c :: _ => .ofOption 2 (((cellOf? c).bind (second b.toNat)).map ([·]))
  | 0x8F, rest => .nothing rest.length
  | a, rest =>
    match ascii? a.toNat, rest with
    | some c, _ => .text [c] 0
    | none, b :: _ => .ofOption 1 ((cellOf? b).bind (first a.toNat))
    | none, [] => .nothing 0

/-- The charsets. -/
def charsets : List Wide := [
  ⟨"euc-jis-2004", "Japanese", spelling Kanji.later? Kanji.second.char?⟩,
  ⟨"euc-jisx0213", "Japanese",
    (spelling Kanji.early? Kanji.earlySecond?).passing fun a b =>
      ((cellOf? (.ofNat b)).bind (Kanji.recent? a)).isSome⟩,
  ⟨"euc-jp", "Japanese",
    spelling (Text.Spelling.single Kanji.standard?) Kanji.supplement?⟩]

end ResourceSymbols.Charset.EucJp
