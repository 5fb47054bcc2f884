import ResourceSymbols.Number.Literal
import ResourceSymbols.Text.CharacterName.FromA
import ResourceSymbols.Text.CharacterName.FromD
import ResourceSymbols.Text.CharacterName.FromL
import ResourceSymbols.Text.CharacterName.FromS

/-!
# Names of characters

Most names and aliases are written out.  A syllable of Hangul is named by the letters in
it, and an ideograph by its code point.

## Main results

* `length_following` — a name has the words that it shares with the one before it, as far
  as that one has them, and its own.
-/

namespace ResourceSymbols.Text.CharacterName

/-- The entries of a line of a table: how many words a name shares with the one before it,
and the words that follow those. -/
def entriesOf (line : String) : List (Nat × List String) :=
  (line.toList.splitBy fun _ c => !c.isLower).filterMap fun cs =>
    match cs with
    | c :: cs => some (c.toNat - 'a'.toNat, (String.ofList cs).splitOn " ")
    | [] => none

/-- The name of an entry that follows a name. -/
def following (before : List String) (entry : Nat × List String) : List String :=
  before.take entry.1 ++ entry.2

/-- A name has the words that it shares with the one before it, as far as that one has
them, and its own. -/
theorem length_following (before : List String) (entry : Nat × List String) :
    (following before entry).length = min entry.1 before.length + entry.2.length := by
  simp [following]

/-- Whether a table has a name. -/
def isListed (table : List String) (name : List String) : Bool :=
  ((table.flatMap entriesOf).foldl (fun (before, found) entry =>
    let next := following before entry
    (next, found || next == name)) ([], false)).2

/-- The letters that start a syllable of Hangul; one of them is silent. -/
def initials : List String :=
  ["", "G", "GG", "N", "D", "DD", "R", "M", "B", "BB", "S", "SS", "J", "JJ", "C", "K", "T", "P",
    "H"]

/-- The vowels of a syllable of Hangul. -/
def vowels : List String :=
  ["A", "AE", "YA", "YAE", "EO", "E", "YEO", "YE", "O", "WA", "WAE", "OE", "YO", "U", "WEO", "WE",
    "WI", "YU", "EU", "YI", "I"]

/-- The letters that end a syllable of Hangul, or none. -/
def finals : List String :=
  ["", "G", "GG", "GS", "N", "NJ", "NH", "D", "L", "LG", "LM", "LB", "LS", "LT", "LP", "LH", "M",
    "B", "BS", "S", "SS", "NG", "J", "C", "K", "T", "P", "H"]

/-- What follows the longest of some letters at the front, if one stands there. -/
def afterLetter? (letters : List String) (cs : List Char) : Option (List Char) :=
  let lengths := (letters.filter fun l => l.toList.isPrefixOf cs).map (·.length)
  lengths.max?.map cs.drop

/-- Whether the characters are the letters of a syllable of Hangul. -/
def isSyllable (cs : List Char) : Bool :=
  (afterLetter? initials cs).any fun cs =>
    (afterLetter? vowels cs).any fun cs => (afterLetter? finals cs).any (·.isEmpty)

/-- The code points of the unified ideographs. -/
def unifiedSpans : List (Nat × Nat) := [
  (0x3400, 0x4DBF), (0x4E00, 0x9FFF), (0x20000, 0x2A6DF), (0x2A700, 0x2B738), (0x2B740, 0x2B81D),
  (0x2B820, 0x2CEA1), (0x2CEB0, 0x2EBE0), (0x30000, 0x3134A)]

/-- The number that at least four, and at most five, hexadecimal digits in capitals
give. -/
def codePoint? (cs : List Char) : Option Nat :=
  if (cs.length = 4 ∨ cs.length = 5) ∧ cs.all fun c => c.isDigit || ('A' ≤ c && c ≤ 'F') then
    some (Number.Literal.ofDigits 16 (cs.filterMap Number.Literal.digitValue?))
  else none

/-- Whether a code point lies in one of some spans. -/
def isWithin (spans : List (Nat × Nat)) (n : Nat) : Bool :=
  spans.any fun s => decide (s.1 ≤ n) && decide (n ≤ s.2)

/-- Characters that are named by a word or more and their code point. -/
def numbered : List (String × List (Nat × Nat)) := [
  ("CJK COMPATIBILITY IDEOGRAPH-", [(0xF900, 0xFA6D), (0xFA70, 0xFAD9), (0x2F800, 0x2FA1D)]),
  ("KHITAN SMALL SCRIPT CHARACTER-", [(0x18B00, 0x18CD5)]),
  ("NUSHU CHARACTER-", [(0x1B170, 0x1B2FB)])]

/-- What follows some characters at the front of a name, if they stand there. -/
def after? (front : String) (cs : List Char) : Option (List Char) :=
  if front.toList.isPrefixOf cs then some (cs.drop front.length) else none

/-- Whether a name in capitals is given by a number. -/
def isNumbered (cs : List Char) : Bool :=
  numbered.any fun (front, spans) =>
    (after? front cs).any fun digits =>
      digits.head? != some '0' && (codePoint? digits).any (isWithin spans)

/-- Whether the characters name a character.  Small letters do for capitals, but not in
the names of syllables and of unified ideographs. -/
def isName (cs : List Char) : Bool :=
  match after? "HANGUL SYLLABLE " cs, after? "CJK UNIFIED IDEOGRAPH-" cs with
  | some letters, _ => isSyllable letters
  | none, some digits => (codePoint? digits).any (isWithin unifiedSpans)
  | none, none =>
    let capitals := cs.map Char.toUpper
    let words := (String.ofList capitals).splitOn " "
    isNumbered capitals ||
      [namesFromA, namesFromD, namesFromL, namesFromS].any fun table => isListed table words

end ResourceSymbols.Text.CharacterName
