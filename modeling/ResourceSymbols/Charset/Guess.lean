import ResourceSymbols.Charset.Declared
import ResourceSymbols.Charset.Sample
import ResourceSymbols.Text.Disorder

/-!
# Guessing a charset

Octets that do not tell how they are to be read are read in every way, and the text
that looks most like one is taken.  Of texts with about the same disorder the one that
is more like some language is better, and if they are about as much like one, then the
shorter text, because it comes from a charset that spells a character by several octets.
-/

namespace ResourceSymbols.Charset

/-- A way to read some octets. -/
structure Guess where
  text : List Char
  /-- How many characters the text has. -/
  length : Nat
  /-- The mean disorder of the samples. -/
  disorder : Float
  /-- Whether the samples are so disorderly that the text counts as misread. -/
  isMisread : Bool
  /-- The likeness to a language in ten-thousandths. -/
  likeness : Nat

namespace Guess

/-- The disorder from which on a sample counts as misread. -/
def misreadFrom : Float := Float.ofScientific Text.Disorder.limit true 3

/-- The mean of some numbers. -/
def mean (xs : List Float) : Float := xs.foldl (· + ·) 0 / xs.length.toFloat

/-- How a charset reads some octets, if they spell a text in it.  The likeness of a
misread text is of no interest. -/
def of? (octets : List UInt8) (charset : Charset) : Option Guess :=
  (charset.decode? octets).map fun text =>
    let parts := samples charset octets text
    let disorders := parts.map fun part => Float.ofScientific (Text.Disorder.ofText part) true 3
    let disorder := mean disorders
    let isMisread :=
      decide (misreadFrom ≤ disorder) || decide (2 ≤ disorders.countP (misreadFrom ≤ ·))
    { text
      length := text.length
      disorder
      isMisread
      likeness :=
        if isMisread then 0
        else Text.Likeness.best (parts.map (Text.Likeness.ofText charset.candidates)) }

/-- Whether a text is so tidy that no other charsets are tried. -/
def isTidy (g : Guess) : Bool := !g.isMisread && decide (g.disorder < 0.1)

/-- Whether nothing of a text is out of order. -/
def isFaultless (g : Guess) : Bool := !g.isMisread && g.disorder == 0

/-- Whether one guess is better than another. -/
def before (a b : Guess) : Bool :=
  if (a.disorder - b.disorder).abs < 0.005 then
    let x := Float.ofScientific a.likeness true 4
    let y := Float.ofScientific b.likeness true 4
    if 0.02 < (x - y).abs then decide (b.likeness < a.likeness) else decide (a.length < b.length)
  else decide (a.disorder < b.disorder)

/-- Whether two guesses come to the same. -/
def same (a b : Guess) : Bool :=
  a.length == b.length && a.disorder == b.disorder && a.text == b.text

/-- The place of a guess among ranked ones, from `low` to `high`, by halving. -/
def placeIn (g : Guess) (ranked : Array Guess) (low high : Nat) : Nat :=
  if low < high then
    let middle := (low + high) / 2
    if ranked[middle]?.any g.before then placeIn g ranked low middle
    else placeIn g ranked (middle + 1) high
  else low
termination_by high - low

/-- The place of a guess is one of those asked for. -/
theorem placeIn_bounds (g : Guess) (ranked : Array Guess) (low high : Nat) (h : low ≤ high) :
    low ≤ g.placeIn ranked low high ∧ g.placeIn ranked low high ≤ high := by
  fun_induction placeIn g ranked low high with
  | case1 low high hlt middle _ ih =>
    have := ih (by omega)
    omega
  | case2 low high hlt middle _ ih =>
    have := ih (by omega)
    omega
  | case3 => omega

/-- Ranks a guess among those that came before it.  It stays at the end unless it is
better than the last of them. -/
def rank (ranked : Array Guess) (g : Guess) : Array Guess :=
  if ranked.any (same g) then ranked
  else if ranked.back?.any g.before then
    let place := placeIn g ranked 0 ranked.size
    ranked.extract 0 place ++ #[g] ++ ranked.extract place ranked.size
  else ranked.push g

/-- The best of some guesses, which are ranked one after another. -/
def best? (gs : List Guess) : Option Guess := (gs.foldl rank #[])[0]?

end Guess

/-- The guesses so far, and the charsets that gave a misread text. -/
structure Trial where
  ranked : Array Guess := #[]
  misread : List Charset := []

/-- Reads the octets in one more way, unless a charset that is much alike has misread
them. -/
def Trial.read (octets : List UInt8) (t : Trial) (charset : Charset) : Trial :=
  if t.misread.any charset.resembles then t
  else
    match Guess.of? octets charset with
    | none => t
    | some g =>
      if g.isMisread then { t with misread := charset :: t.misread }
      else { t with ranked := Guess.rank t.ranked g }

/-- The byte order mark in GB 18030. -/
def gbMark : List UInt8 := [0x84, 0x31, 0x95, 0x33]

/-- The text behind a byte order mark in GB 18030, with the mark. -/
def marked? (octets : List UInt8) : Option (List Char) :=
  if gbMark.isPrefixOf octets then
    ((ofName? "gb18030").bind fun charset =>
      (Guess.of? (octets.drop 4) charset).filter (!·.isMisread)).map ('\uFEFF' :: ·.text)
  else none

/-- The text that looks best among all that the octets may spell, `declared` being the
charset that they declare. -/
def best? (declared : Option Charset) (octets : List UInt8) : Option (List Char) :=
  let others := (utf8 :: all).filter fun charset => declared.all (·.name != charset.name)
  ((declared.toList ++ others).foldl (Trial.read octets) {}).ranked[0]?.map (·.text)

/-- The text that the octets most likely spell: a text in the charset that they declare
if it is faultless, what a mark at their start says, a tidy text in the declared charset
or in UTF-8, or the text that looks best.  If every charset misreads them, they are read
in the declared one, or as much as reads as UTF-8. -/
def guess (octets : List UInt8) : List Char :=
  let declared := (declared? octets).bind ofName?
  let first := declared.bind (Guess.of? octets)
  let tidy := (first.toList ++ (Guess.of? octets utf8).toList).filter (·.isTidy)
  let settled :=
    ((first.filter (·.isFaultless)).map (·.text)).or <|
      (marked? octets).or <|
        ((tidy.find? (·.isFaultless)).or (Guess.best? tidy)).map (·.text)
  settled.getD <| (best? declared octets).getD <|
    (first.map (·.text)).getD (Text.Utf8.decodeLossy octets)

end ResourceSymbols.Charset
