import ResourceSymbols.Console.Style
import ResourceSymbols.Text.CellWidth

/-!
# Styled text

A text in which spans of characters have a style.  It is cut into lines and its tabs
are filled up; a span goes along with its characters.

## Main results

* `joined_chars` — joining texts joins their characters.
-/

namespace ResourceSymbols.Console

/-- Characters of a text that are in a style, which is given in words.  A span that
only answers to a handler has none. -/
structure Span where
  start : Nat
  stop : Nat
  style : Option String
deriving DecidableEq, Repr

namespace Span

/-- What lies between two places of the text, counted from the first of them. -/
def between? (first last : Nat) (s : Span) : Option Span :=
  let start := s.start - first
  let stop := min s.stop last - first
  if start < stop then some { s with start, stop } else none

/-- The span as it lies after `n` more characters. -/
def shifted (n : Nat) (s : Span) : Span := { s with start := s.start + n, stop := s.stop + n }

/-- Why the style of the span cannot be made out. -/
def fault? (s : Span) : Option StyleFault :=
  match s.style.map fun name => Style.read name.toList with
  | some (.error .unknown) | some (.ok _) | none => none
  | some (.error f) => some f

end Span

/-- A text with styles. -/
structure Styled where
  chars : List Char
  spans : List Span
deriving DecidableEq, Repr

namespace Styled

/-- The part of a text between two places. -/
def part (t : Styled) (first last : Nat) : Styled :=
  { chars := (t.chars.drop first).take (last - first)
    spans := t.spans.filterMap (Span.between? first last) }

/-- The parts of a text, which is cut at the given places in order. -/
def cutAt (t : Styled) (places : List Nat) : List Styled :=
  if places.isEmpty then [t]
  else
    ((0 :: places).zip (places ++ [t.chars.length])).map fun r => t.part r.1 r.2

/-- Where the pieces lie that one character each stands between, the first of them
starting at `first`. -/
def placesOf (first : Nat) : List (List Char) → List (Nat × Nat)
  | [] => []
  | p :: ps => (first, first + p.length) :: placesOf (first + p.length + 1) ps

/-- The lines of a text. -/
def lines (t : Styled) : List Styled :=
  if '\n' ∈ t.chars then
    (placesOf 0 (Text.pieces '\n' t.chars)).map fun r => t.part r.1 r.2
  else [t]

/-- The texts one after the other. -/
def joined : List Styled → Styled
  | [] => { chars := [], spans := [] }
  | t :: ts =>
    let rest := joined ts
    { chars := t.chars ++ rest.chars
      spans := t.spans ++ rest.spans.map (Span.shifted t.chars.length) }

theorem joined_chars (ts : List Styled) : (joined ts).chars = ts.flatMap Styled.chars := by
  induction ts with
  | nil => rfl
  | cons t ts ih => simp [joined, ih]

/-! ## Tabs -/

/-- How far apart tab stops are. -/
def tabSize : Nat := 8

/-- The text with blanks after it, up to the next tab stop.  A span that ends with
the text takes the blanks in. -/
def toTabStop (t : Styled) : Styled :=
  let n := t.chars.length
  let missing := (tabSize - Text.cellLength t.chars % tabSize) % tabSize
  { chars := t.chars ++ List.replicate missing ' '
    spans := t.spans.map fun s => if n ≤ s.stop then { s with stop := s.stop + missing } else s }

/-- The text with a blank in place of a tab at its end, and more of them up to the
next tab stop. -/
def fillTab (t : Styled) : Styled :=
  if t.chars.getLast? = some '\t' then
    toTabStop { t with chars := t.chars.dropLast ++ [' '] }
  else t

/-- The line with blanks in place of its tabs. -/
def expandTabs (t : Styled) : Styled :=
  if '\t' ∈ t.chars then
    let ends := t.chars.zipIdx.filterMap fun c => if c.1 = '\t' then some (c.2 + 1) else none
    joined ((t.cutAt ends).map fillTab)
  else t

/-! ## Room -/

/-- The text with other characters.  Spans end with the text where these are fewer. -/
def withChars (t : Styled) (chars : List Char) : Styled :=
  let last := chars.length
  if last < t.chars.length then
    { chars
      spans := (t.spans.filter fun s => decide (s.start < last)).map fun s =>
        { s with stop := min s.stop last } }
  else { t with chars }

/-- The line without blanks at its end as far as it has more than `n` characters. -/
def trimTo (n : Nat) (t : Styled) : Styled :=
  let blanks := (t.chars.reverse.takeWhile Text.isBlank).length
  t.withChars (t.chars.take (t.chars.length - min blanks (t.chars.length - n)))

/-- The line in `n` cells: with blanks after it, or cut short by an ellipsis. -/
def fitted (n : Nat) (t : Styled) : Styled :=
  if Text.cellLength t.chars ≤ n then t.withChars (Text.fit n t.chars)
  else t.withChars (Text.fit (n - 1) t.chars ++ ['…'])

/-- The runs of a line that are drawn in one style each. -/
def runs (t : Styled) : List (List Char) :=
  let ends := t.spans.flatMap fun s => [s.start, s.stop]
  let places := (List.range t.chars.length).filter fun i => 0 < i && ends.contains i
  (t.cutAt places).map Styled.chars

/-- The first style that cannot be made out. -/
def fault? (t : Styled) : Option StyleFault := t.spans.findSome? Span.fault?

end Styled

end ResourceSymbols.Console
