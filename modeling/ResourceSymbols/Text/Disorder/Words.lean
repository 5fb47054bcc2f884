import ResourceSymbols.Text.Disorder.Counts

/-!
# Words that nobody writes

A word is bad if it is full of accents, if signs stand within it, if it ends in an
accented capital or mixes scripts, or if it is long and foreign.  Letters change
between upper and lower case within a word only where somebody writes it so, and not
back and forth.
-/

namespace ResourceSymbols.Text.Disorder

/-- The words of a text, and the one under way. -/
structure Words where
  /-- The word under way, backwards. -/
  word : List Traits := []
  /-- Whether a letter of it is neither plain Latin nor of a script without blanks. -/
  isForeign : Bool := false
  /-- Whether a sign stands in it. -/
  isBroken : Bool := false
  words : Nat := 0
  characters : Nat := 0
  badCharacters : Nat := 0
  /-- How many words are bad by their end, by their script or by their length. -/
  grave : Nat := 0

namespace Words

/-- Whether the word is full of accents. -/
def isOveraccented (word : List Traits) : Bool :=
  decide (word.length ≤ 2 * word.countP fun t => t.isLetter && t.isAccented)

/-- Whether the word, given backwards, ends in an accented capital without being all
capitals, or has one letter of a script without blanks. -/
def isMismatched (word : List Traits) : Bool :=
  ((word.head?.any fun t => t.isAccented && t.isCapital) && !word.all (·.isCapital)) ||
    (word.countP fun t => t.isUnspaced) == 1

/-- Whether the word is too long for its capitals to part it. -/
def isUnparted (word : List Traits) : Bool :=
  let capitals := word.countP (·.isCapital)
  !(0 < capitals && share capitals word.length ≤ 0.3)

/-- Counts the word under way at its end. -/
def close (s : Words) : Words :=
  let length := s.word.length
  let overaccented := 4 ≤ length && isOveraccented s.word
  let mismatched := 4 ≤ length && !overaccented && isMismatched s.word
  let unparted := 24 ≤ length && s.isForeign && isUnparted s.word
  let bad := s.isBroken || overaccented || mismatched || unparted
  { words := s.words + 1
    characters := s.characters + length
    badCharacters := s.badCharacters + if bad then length else 0
    grave := s.grave + mismatched.toNat + unparted.toNat }

/-- Counts a character. -/
def read (s : Words) (t : Traits) : Words :=
  if t.isLetter then
    { s with
      word := t :: s.word
      isForeign := s.isForeign || ((!t.isLatin || t.isAccented) && !t.isUnspaced) }
  else if s.word.isEmpty then s
  else if t.endsWord then s.close
  else if !"<>-=~|_".contains t.char && !t.isDigit && t.isSign then
    { s with word := t :: s.word, isBroken := true }
  else s

/-- The share of the bad words, once there are more than a few or one is gravely bad. -/
def degree (s : Words) : Float :=
  if s.words ≤ 10 ∧ s.grave = 0 then 0 else share s.badCharacters s.characters

end Words

/-- Changes of case in a row, in the word under way and in all. -/
structure Cases where
  seen : Nat := 0
  /-- How many characters the word under way has. -/
  length : Nat := 0
  /-- Whether the word under way is all ASCII. -/
  isPlain : Bool := true
  last : Option Traits := none
  /-- Whether the last two letters differ in case and the two before them do not. -/
  isPending : Bool := false
  changes : Nat := 0
  counted : Nat := 0

namespace Cases

/-- Counts a character.  A word ends at a character without a case; its changes
count unless it is very long, ends at a digit, or is all ASCII. -/
def read (s : Cases) (t : Traits) : Cases :=
  let hasCase := t.isLetter && t.isSmall != t.isCapital
  if !hasCase && 0 < s.length then
    { seen := s.seen + 1
      counted := s.counted +
        if s.length ≤ 64 && !t.isDigit && !s.isPlain then s.changes else 0 }
  else
    let differs := s.last.any fun l =>
      (t.isCapital && l.isSmall) || (t.isSmall && l.isCapital)
    { s with
      seen := s.seen + 1
      length := s.length + 1
      isPlain := s.isPlain && decide (t.char.toNat < 0x80)
      last := some t
      isPending := differs && !s.isPending
      changes := s.changes + if differs && s.isPending then 2 else 0 }

/-- The share of the changes of case that count. -/
def degree (s : Cases) : Float := share s.counted s.seen

end Cases

end ResourceSymbols.Text.Disorder
