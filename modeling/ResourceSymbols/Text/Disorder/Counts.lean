import ResourceSymbols.Text.Disorder.Traits

/-!
# Counts over the characters of a text

Each count is one way in which octets show that they were read in the wrong way.
`read` counts a character, and `degree` says how bad the count is: zero if it is
not, and the more the larger the share of the characters that it weighs.
-/

namespace ResourceSymbols.Text.Disorder

/-- The share of a part in a whole; nothing has no parts. -/
def share (part whole : Nat) : Float :=
  if whole = 0 then 0 else part.toFloat / whole.toFloat

/-- Signs and punctuation among what is visible.  Of equal characters in a row only
the first one counts, and a sign counts twice. -/
structure Signs where
  visible : Nat := 0
  weight : Nat := 0
  last : Option Char := none

def Signs.read (s : Signs) (t : Traits) : Signs :=
  if t.isPrintable then
    { visible := s.visible + 1
      weight := s.weight +
        if s.last == some t.char || t.isStructural then 0
        else if t.isPunctuation then 1
        else if !t.isDigit && t.isSign && !t.isPicture then 2
        else 0
      last := some t.char }
  else s

def Signs.degree (s : Signs) : Float :=
  let x := share s.weight s.visible
  if 0.3 ≤ x then x else 0

/-- Accented letters among the letters. -/
structure Accents where
  letters : Nat := 0
  accented : Nat := 0

def Accents.read (s : Accents) (t : Traits) : Accents :=
  if t.isLetter then
    { letters := s.letters + 1, accented := s.accented + t.isAccented.toNat }
  else s

def Accents.degree (s : Accents) : Float :=
  let x := share s.accented s.letters
  if 8 ≤ s.letters ∧ 0.35 ≤ x then x else 0

/-- Characters without a visible form, blanks, the end of a file and the byte order
mark apart. -/
structure Hidden where
  seen : Nat := 0
  hidden : Nat := 0

def Hidden.read (s : Hidden) (t : Traits) : Hidden :=
  let hides := !t.isBlank && !t.isPrintable && t.char != '\x1a' && t.char != '\ufeff'
  { seen := s.seen + 1, hidden := s.hidden + hides.toNat }

def Hidden.degree (s : Hidden) : Float := share (s.hidden * 8) s.seen

/-- Accented Latin letters that follow each other as capitals, or as the same letter
with two accents. -/
structure Doubles where
  letters : Nat := 0
  doubled : Nat := 0
  last : Option Traits := none

def Doubles.read (s : Doubles) (t : Traits) : Doubles :=
  if t.isLatin then
    let found :=
      match s.last with
      | none => 0
      | some l =>
        if t.isAccented && l.isAccented then
          (t.isCapital && l.isCapital).toNat + (t.base? == l.base?).toNat
        else 0
    { letters := s.letters + 1, doubled := s.doubled + found, last := some t }
  else s

def Doubles.degree (s : Doubles) : Float := share (s.doubled * 2) s.letters

/-- Visible characters that follow each other from blocks that do not adjoin.  Blanks
and punctuation part them. -/
structure Leaps where
  visible : Nat := 0
  leaps : Nat := 0
  last : Option Char := none

def Leaps.read (s : Leaps) (t : Traits) : Leaps :=
  if !t.isPrintable then s
  else if t.isBlank || t.isPunctuation || t.isStructural then
    { s with visible := s.visible + 1, last := none }
  else
    let leap :=
      match s.last with
      | none => false
      | some l =>
        match block? l, block? t.char with
        | some a, some b => !a.adjoin b
        | _, _ => true
    { visible := s.visible + 1, leaps := s.leaps + leap.toNat, last := some t.char }

def Leaps.degree (s : Leaps) : Float :=
  if s.visible ≤ 13 then 0 else share (s.leaps * 2) s.visible

/-- Ideographs that are seldom written. -/
structure Ideographs where
  seen : Nat := 0
  rare : Nat := 0

def Ideographs.read (isCommon : Char → Bool) (s : Ideographs) (t : Traits) : Ideographs :=
  if isIdeograph t.char then
    { seen := s.seen + 1, rare := s.rare + (!isCommon t.char).toNat }
  else s

def Ideographs.degree (s : Ideographs) : Float :=
  let x := share s.rare s.seen
  if 8 ≤ s.seen ∧ 0.5 < x then x / 10 else 0

/-- Arabic letters in the form that they take when they stand alone. -/
structure Isolated where
  seen : Nat := 0
  isolated : Nat := 0

def Isolated.read (s : Isolated) (t : Traits) : Isolated :=
  if isArabic t.char then
    { seen := s.seen + 1, isolated := s.isolated + (isIsolatedForm t.char).toNat }
  else s

def Isolated.degree (s : Isolated) : Float :=
  if s.seen < 8 then 0 else share s.isolated s.seen

end ResourceSymbols.Text.Disorder
