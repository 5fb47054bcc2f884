import ResourceSymbols.Charset.Grid
import ResourceSymbols.Charset.HangulTable
import ResourceSymbols.Charset.Wide

/-!
# Hangul

Korean.  The standard has the syllables in common use; in the unified form the pairs
that it leaves open spell all others in their order.  In the combining form the bits of
a pair choose the letters of a syllable.
-/

namespace ResourceSymbols.Charset.Hangul

/-- The rows of the standard. -/
def grid : Grid := .ofLines 94 hangulRows

/-- What a pair of octets spells in the standard. -/
def standard? (a b : Nat) : Option Char := (cell? [(0xA1, 0xFE)] b).bind (grid.char? a)

/-- The syllables that the standard lacks. -/
def others : Array Char := remaining 0xAC00 0xD7A3 grid.chars

/-- The second octets of a pair that spells one of the other syllables. -/
def otherCells : List (Nat × Nat) := [(0x41, 0x5A), (0x61, 0x7A), (0x81, 0xFE)]

/-- What a pair of octets spells in the unified form.  The other syllables fill rows of
178 cells up to the row A0, and then the 84 cells in front of each row of the
standard. -/
def unified? (a b : Nat) : Option Char :=
  if 0xA1 ≤ a ∧ 0xA1 ≤ b then standard? a b
  else if 0x81 ≤ a then
    (cell? otherCells b).bind fun cell =>
      others[if a ≤ 0xA0 then (a - 0x81) * 178 + cell
        else 0x20 * 178 + (a - 0xA1) * 84 + cell]?
  else none

/-- A place for a letter in a syllable. -/
inductive Place
  | empty
  | letter (index : Nat)
deriving DecidableEq, Repr

/-- What five bits choose, where runs of codes choose the letters in order. -/
def place? (empty : Nat) (runs : List (Nat × Nat)) (code : Nat) : Option Place :=
  if code = empty then some .empty else (cell? runs code).map .letter

/-- The letters that end a syllable, as they stand alone. -/
def finals : Array Char := "ㄱㄲㄳㄴㄵㄶㄷㄹㄺㄻㄼㄽㄾㄿㅀㅁㅂㅄㅅㅆㅇㅈㅊㅋㅌㅍㅎ".toList.toArray

/-- The letters that start a syllable, as they stand alone. -/
def initials : Array Char := "ㄱㄲㄴㄷㄸㄹㅁㅂㅃㅅㅆㅇㅈㅉㅊㅋㅌㅍㅎ".toList.toArray

/-- The syllable of some letters, or the only letter. -/
def syllable? : Place → Place → Place → Option Char
  | .empty, .empty, .empty => some '\u3000'
  | .empty, .empty, .letter last => finals[last]?
  | .empty, .letter vowel, .empty => some (Char.ofNat (0x314F + vowel))
  | .letter first, .empty, .empty => initials[first]?
  | .letter first, .letter vowel, .empty => some (Char.ofNat (0xAC00 + first * 588 + vowel * 28))
  | .letter first, .letter vowel, .letter last =>
    some (Char.ofNat (0xAC00 + first * 588 + vowel * 28 + last + 1))
  | _, _, _ => none

/-- The pair that opens a syllable spelt letter by letter, and closes one without a
letter at its end. -/
def opening : Nat × Nat := (0xA4, 0xD4)

/-- The syllable whose letters three pairs of the standard spell. -/
def joined? (first vowel last : Nat × Nat) : Option Char := do
  let i ← initials.idxOf? (← standard? first.1 first.2)
  let j ← cell? [(0x314F, 0x3163)] (← standard? vowel.1 vowel.2).toNat
  if last = opening then syllable? (.letter i) (.letter j) .empty
  else
    let k ← finals.idxOf? (← standard? last.1 last.2)
    syllable? (.letter i) (.letter j) (.letter k)

/-- What the three times five bits of a pair below D8 choose. -/
def composed? (a b : Nat) : Option Char :=
  (place? 1 [(2, 20)] (a / 4 % 32)).bind fun first =>
    (place? 2 [(3, 7), (10, 15), (18, 23), (26, 29)] ((a * 8 + b / 32) % 32)).bind fun vowel =>
      (place? 1 [(2, 17), (19, 29)] (b % 32)).bind fun last => syllable? first vowel last

/-- The second octets of a pair from D8 on. -/
def signCells : List (Nat × Nat) := [(0x31, 0x7E), (0x91, 0xFE)]

/-- The first octets from D9 on, in the order of the rows of the standard that they
choose two by two: its signs, and from the row CA on its Hanja. -/
def signLeads : List (Nat × Nat) := [(0xD9, 0xDE), (0xE0, 0xF9)]

/-- What a pair from D8 on spells: a character of the standard that is no syllable and
no letter. -/
def sign? (a b : Nat) : Option Char :=
  if a = 0xDA ∧ 0xA1 ≤ b ∧ b ≤ 0xD3 then none
  else
    (cell? signLeads a).bind fun lead =>
      (cell? signCells b).bind fun cell =>
        let row := (if lead < 6 then 0xA1 + 2 * lead else 0xCA + 2 * (lead - 6)) + cell / 94
        grid.char? row (cell % 94)

/-- What a pair of octets spells in the combining form. -/
def combined? (a b : Nat) : Option Char := if a < 0xD8 then composed? a b else sign? a b

/-- The spelling by pairs. -/
def spelling (pair : Nat → Nat → Option Char) : Text.Spelling :=
  .ofPairs ascii? (Text.Spelling.single pair)

/-- The spelling of the standard: by pairs, and by the letters of a syllable. -/
def standardSpelling : Text.Spelling := fun a rest =>
  if (a.toNat, rest.head?.map (·.toNat)) = (opening.1, some opening.2) then
    match (rest.take 7).map (·.toNat) with
    | [_, b, c, d, e, f, g] =>
      .ofOption 7 ((joined? (b, c) (d, e) (f, g)).map ([·]))
    | _ => .nothing rest.length
  else spelling standard? a rest

/-- The charsets. -/
def charsets : List Wide := [
  ⟨"cp949", "Korean", spelling unified?⟩,
  ⟨"euc-kr", "Korean", standardSpelling⟩,
  ⟨"johab", "Korean", spelling combined?⟩]

end ResourceSymbols.Charset.Hangul
