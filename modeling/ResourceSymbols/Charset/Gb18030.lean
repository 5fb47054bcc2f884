import ResourceSymbols.Charset.Grid
import ResourceSymbols.Charset.HanziTable
import ResourceSymbols.Charset.Wide

/-!
# GB 18030

Simplified Chinese, and all other characters.  A pair spells a character of the older
standard, an ideograph of the first edition of Unicode that this standard lacks, or a
character for private use; four octets spell what no pair does, in the order of the
code points.  The older standards have parts of the pairs.
-/

namespace ResourceSymbols.Charset.Gb18030

/-- The second octets of a pair. -/
def cells : List (Nat × Nat) := [(0x40, 0x7E), (0x80, 0xFE)]

/-- The rows of the older standard. -/
def grid : Grid := .ofLines 94 hanziRows

/-- The ideographs that no row of the older standard has: first those of the first
edition of Unicode, in order. -/
def otherHanzi : Array Char := remaining 0x4E00 0x9FA5 grid.chars ++ Grid.charsOf laterHanzi

/-- The symbols in front of the rows A8 and A9. -/
def symbols : Array Char := Grid.charsOf hanziSymbols

/-- The character that a pair spells.  A row has 96 cells in front of the 94 of the
older standard. -/
def pair? (a b : Nat) : Option Char :=
  (cell? cells b).bind fun cell =>
    if a < 0x81 ∨ 0xFE < a then none
    else if a ≤ 0xA0 then otherHanzi[(a - 0x81) * 190 + cell]?
    else if cell < 96 then
      if a < 0xA8 then some (Char.ofNat (0xE4C6 + (a - 0xA1) * 96 + cell))
      else if a < 0xAA then symbols[(a - 0xA8) * 96 + cell]?
      else otherHanzi[0x20 * 190 + (a - 0xAA) * 96 + cell]?
    else if 0xAA ≤ a ∧ a < 0xB0 then
      some (Char.ofNat (0xE000 + (a - 0xAA) * 94 + (cell - 96)))
    else if 0xF8 ≤ a then some (Char.ofNat (0xE234 + (a - 0xF8) * 94 + (cell - 96)))
    else grid.char? a (cell - 96)

/-- The characters of the basic plane that no pair spells. -/
def unpaired : Array Char :=
  remaining 0x80 0xFFFF <|
    (List.range 126).flatMap fun a =>
      (List.range 191).filterMap fun b => pair? (a + 0x81) (b + 0x40)

/-- The character that four octets spell. -/
def quadruple? (a b c d : Nat) : Option Char :=
  if 0x81 ≤ a ∧ a ≤ 0xFE ∧ 0x30 ≤ b ∧ b ≤ 0x39 ∧ 0x81 ≤ c ∧ c ≤ 0xFE ∧ 0x30 ≤ d ∧ d ≤ 0x39 then
    let n := (((a - 0x81) * 10 + (b - 0x30)) * 126 + (c - 0x81)) * 10 + (d - 0x30)
    if n < 189000 then unpaired[n]?
    else if n - 189000 < 0x100000 then some (Char.ofNat (0x10000 + (n - 189000)))
    else none
  else none

/-- The whole standard. -/
def spelling : Text.Spelling
  | a, rest =>
    match ascii? a.toNat, rest with
    | some c, _ => .text [c] 0
    | none, b :: rest =>
      if 0x30 ≤ b.toNat ∧ b.toNat ≤ 0x39 then
        match rest with
        | c :: d :: _ =>
          .ofOption 3 ((quadruple? a.toNat b.toNat c.toNat d.toNat).map ([·]))
        | _ => .nothing (rest.length + 1)
      else .ofOption 1 (Text.Spelling.single pair? a.toNat b.toNat)
    | none, [] => .nothing 0

/-- The pairs, as one number each, that are younger than the extension of the oldest
standard. -/
def younger : List (Nat × Nat) := [
  (0xA2E3, 0xA2E3), (0xA8BF, 0xA8BF), (0xA989, 0xA995), (0xFE50, 0xFEA0)]

/-- The pairs that the extension of the oldest standard has and the rows of that one do
not. -/
def extending : List (Nat × Nat) := [
  (0xA2A1, 0xA2AA), (0xA6E0, 0xA6F5), (0xA8BB, 0xA8C0)]

/-- What a pair spells that is in none of some runs and that is not for private use. -/
def without? (runs : List (Nat × Nat)) (a b : Nat) : Option Char :=
  if (cell? runs (a * 256 + b)).isSome then none
  else (pair? a b).filter fun c => decide (c.toNat < 0xE000) || decide (0xF8FF < c.toNat)

/-- What a pair spells in the oldest standard, which reads two signs in another way. -/
def oldest? (a b : Nat) : Option Char :=
  if (a, b) = (0xA1, 0xA4) then some '・'
  else if (a, b) = (0xA1, 0xAA) then some '―'
  else if 0xA1 ≤ a ∧ a ≤ 0xF7 ∧ 0xA1 ≤ b then without? (younger ++ extending) a b
  else none

/-- The charsets. -/
def charsets : List Wide := [
  ⟨"gb18030", "Chinese", spelling⟩,
  ⟨"gb2312", "Chinese", .ofPairs ascii? (Text.Spelling.single oldest?)⟩,
  ⟨"gbk", "Chinese", .ofPairs ascii? (Text.Spelling.single (without? younger))⟩]

end ResourceSymbols.Charset.Gb18030
