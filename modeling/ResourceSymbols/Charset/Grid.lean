/-!
# Grids of characters

Scripts with thousands of characters spell each by two octets.  The first octet
chooses a row of a grid, and the second one a cell of the row.
-/

namespace ResourceSymbols.Charset

/-- A grid, in stretches of successive rows. -/
structure Grid where
  /-- The number of cells of a row. -/
  width : Nat
  /-- The stretches, each with the octet that chooses its first row. -/
  stretches : List (Nat × Array Char)

namespace Grid

/-- The characters of successive lines. -/
def charsOf (lines : List String) : Array Char := (lines.flatMap String.toList).toArray

/-- A grid of rows that are written out line by line. -/
def ofLines (width : Nat) (stretches : List (Nat × List String)) : Grid :=
  { width, stretches := stretches.map fun s => (s.1, charsOf s.2) }

/-- The character in a cell of a row, if there is one.  U+FFFD marks an empty cell. -/
def char? (g : Grid) (row cell : Nat) : Option Char :=
  g.stretches.findSome? fun s =>
    if s.1 ≤ row ∧ cell < g.width then
      s.2[(row - s.1) * g.width + cell]?.filter (· != '\uFFFD')
    else none

/-- The characters of the grid. -/
def chars (g : Grid) : List Char :=
  (g.stretches.flatMap fun s => s.2.toList).filter (· != '\uFFFD')

end Grid

/-- The cell that an octet chooses, where runs of octets choose the cells in order. -/
def cell? (runs : List (Nat × Nat)) (octet : Nat) : Option Nat :=
  match runs with
  | [] => none
  | (first, last) :: rest =>
    if first ≤ octet ∧ octet ≤ last then some (octet - first)
    else (cell? rest octet).map (· + (last + 1 - first))

/-- A row has no more cells than its runs have octets. -/
theorem cell?_lt {runs : List (Nat × Nat)} {octet cell : Nat}
    (h : cell? runs octet = some cell) :
    cell < (runs.map fun r => r.2 + 1 - r.1).foldr (· + ·) 0 := by
  induction runs generalizing cell with
  | nil => simp [cell?] at h
  | cons r rest ih =>
    simp only [cell?] at h
    simp only [List.map_cons, List.foldr_cons]
    split at h
    · simp only [Option.some.injEq] at h
      omega
    · obtain ⟨k, hk, rfl⟩ := Option.map_eq_some_iff.1 h
      have := ih hk
      omega

/-- The character of an octet below 80. -/
def ascii? (octet : Nat) : Option Char :=
  if octet < 0x80 then some (Char.ofNat octet) else none

/-- The characters from `first` to `last` that are not among `taken`, in order. -/
def remaining (first last : Nat) (taken : List Char) : Array Char :=
  let marks := taken.foldl
    (fun marks c =>
      if first ≤ c.toNat then marks.setIfInBounds (c.toNat - first) true else marks)
    (Array.replicate (last + 1 - first) false)
  (((List.range (last + 1 - first)).filter fun i =>
    marks[i]? == some false && decide (first + i).isValidChar).map
      fun i => Char.ofNat (first + i)).toArray

end ResourceSymbols.Charset
