import ResourceSymbols.Console.Markup
import ResourceSymbols.Text.Lines

/-!
# Sheets

A sheet shows properties and their values in two columns under a title.  A column is
as wide as the widest line in it, and what is wider once its tabs are filled up is
wrapped between words.
-/

namespace ResourceSymbols.Console

/-- A property and its value, both with tags. -/
structure Row where
  property : String
  value : String

/-! ## Cells -/

/-- The number of cells of the widest line of a text. -/
def widest (t : Styled) : Nat :=
  ((Text.lines t.chars).map Text.cellLength).foldl max 0

/-- The words of a line, each with the blanks after it; those at the front belong to
the first.  Blanks without a word are none. -/
def wordsAndBlanks : Nat → List Char → List (List Char)
  | 0, _ => []
  | measure + 1, cs =>
    let start := cs.takeWhile Text.isBlank
    let rest := cs.drop start.length
    let word := rest.takeWhile fun c => !Text.isBlank c
    let blanks := (rest.drop word.length).takeWhile Text.isBlank
    if word.isEmpty then []
    else
      (start ++ word ++ blanks) ::
        wordsAndBlanks measure (rest.drop (word.length + blanks.length))

/-- Where a line is broken so that its words fit in `n` cells: `place` is where the
next word starts, after `used` cells of the line.  A word that fits on no line starts
a new one. -/
def breaksFrom (n place used : Nat) : List (List Char) → List Nat
  | [] => []
  | w :: ws =>
    let bare := Text.cellLength (w.reverse.dropWhile Text.isBlank).reverse
    let whole := Text.cellLength w
    let next := place + w.length
    if used + bare ≤ n then breaksFrom n next (used + whole) ws
    else if place ≠ 0 ∧ (n < bare ∨ used ≠ 0) then place :: breaksFrom n next whole ws
    else breaksFrom n next (if n < bare then whole else used) ws

/-- Where a line is broken so that its words fit in `n` cells. -/
def breaks (n : Nat) (cs : List Char) : List Nat :=
  breaksFrom n 0 0 (wordsAndBlanks cs.length cs)

/-- The lines of a text in a column of `n` cells. -/
def wrapped (n : Nat) (t : Styled) : List Styled :=
  t.lines.flatMap fun line =>
    let line := line.expandTabs
    (line.cutAt (breaks n line.chars)).map fun l => (l.trimTo n).fitted n

/-- The runs that have room in `n` cells, the last of them cropped. -/
def croppedRuns (n : Nat) : List (List Char) → List Char
  | [] => []
  | r :: rs =>
    if Text.cellLength r < n then r ++ croppedRuns (n - Text.cellLength r) rs else Text.fit n r

/-- A line as it is drawn in a column of `n` cells.  The cells of each run are counted
by themselves. -/
def drawn (n : Nat) (t : Styled) : List Char :=
  let width := (t.runs.map Text.cellLength).foldl (· + ·) 0
  if width ≤ n then t.chars ++ List.replicate (n - width) ' ' else croppedRuns n t.runs

/-- The lines of a cell as they are drawn. -/
def cellLines (n : Nat) (t : Styled) : Except Error (List (List Char)) :=
  let lines := wrapped n t
  match lines.findSome? Styled.fault? with
  | some f => .error (.style f)
  | none => .ok (lines.map (drawn n))

/-! ## Rows -/

/-- The lines of a row; a cell with fewer lines is filled up. -/
def rowLines (first second : Nat) (property value : List (List Char)) : List (List Char) :=
  (List.range (max property.length value.length)).map fun i =>
    [' ', ' '] ++ property.getD i (List.replicate first ' ') ++ [' ', ' ', ' '] ++
      value.getD i (List.replicate second ' ') ++ [' ', ' ']

/-- The line in the middle of `n` cells; what is left over goes to the right. -/
def centred (n : Nat) (cs : List Char) : List Char :=
  Text.fit n (List.replicate ((n - Text.cellLength cs) / 2) ' ' ++ cs)

/-- What is printed for a sheet. -/
def sheet (title : String) (header : Row) (rows : List Row) : Except Error String := do
  let properties ← (header :: rows).mapM fun r => render r.property
  let values ← (header :: rows).mapM fun r => render r.value
  let first := (properties.map widest).foldl max 0
  let second := (values.map widest).foldl max 0
  let total := first + second + 7
  let shown ← (properties.zip values).mapM fun r => do
    return rowLines first second (← cellLines first r.1) (← cellLines second r.2)
  let blank := List.replicate total ' '
  let rule := ' ' :: List.replicate (first + second + 5) '─' ++ [' ']
  let lines := [centred total title.toList, blank] ++ shown.headD [] ++ [rule] ++
    (shown.drop 1).flatten ++ [blank]
  return String.join (lines.map fun l => String.ofList (l ++ ['\n']))

end ResourceSymbols.Console
