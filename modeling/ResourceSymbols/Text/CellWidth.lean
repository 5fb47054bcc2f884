import ResourceSymbols.Text.CellTable
import ResourceSymbols.Text.CharSpan
import ResourceSymbols.Text.CodePoint

/-!
# Width on a terminal

A terminal draws most characters in one cell, wide ones in two, and combining
marks and controls in none.  A joiner draws the next character into the one before
it, and a selector asks for the picture of the character before it.  What is spelled in
two characters takes one cell.

## Main results

* `clusters_flatten` — the clusters of a text are the text.
* `fit_eq_self` — a text of the right length is kept.
-/

namespace ResourceSymbols.Text

/-- The number of terminal cells that a character takes by itself. -/
def cellWidth (c : Char) : Nat :=
  if inSpans zeroWidthSpans c then 0
  else if inSpans doubleWidthSpans c then 2
  else 1

/-- The character that draws the next one into the one before. -/
def joiner : Char := '\u200D'

/-- The character that asks for a picture. -/
def pictureSelector : Char := '\uFE0F'

/-- Whether the character takes a second cell as a picture. -/
def widens (c : Char) : Bool := inSpans pictureSpans c

/-- The number of cells of a text after `last`, the character that a selector would
speak of.  `joined` says that the next character is drawn into another, or belongs to the
mark before it. -/
def cellLengthFrom (last : Option Char) (joined : Bool) : List Char → Nat
  | [] => 0
  | c :: cs =>
    if joined then cellLengthFrom last (c = mark) cs
    else if c = mark then 1 + cellLengthFrom (some c) true cs
    else if c = joiner then cellLengthFrom last true cs
    else if c = pictureSelector then
      (if last.any widens then 1 else 0) + cellLengthFrom none false cs
    else if cellWidth c = 0 then cellLengthFrom last false cs
    else cellWidth c + cellLengthFrom (some c) false cs

/-- The number of cells of a text. -/
def cellLength (cs : List Char) : Nat := cellLengthFrom none false cs

/-- Characters that are drawn together, and the number of their cells. -/
structure Cluster where
  text : List Char
  width : Nat
deriving DecidableEq, Repr

/-- Adds a character, and cells for it, to the last of the clusters, which stands
first. -/
def Cluster.extend (c : Char) (width : Nat) : List Cluster → List Cluster
  | [] => [⟨[c], width⟩]
  | k :: ks => ⟨k.text ++ [c], k.width + width⟩ :: ks

/-- The clusters of a text, the last one first, `before` being those of what stands
before it. -/
def clustersFrom (before : List Cluster) (last : Option Char) (joined : Bool) :
    List Char → List Cluster
  | [] => before
  | c :: cs =>
    if joined then clustersFrom (Cluster.extend c 0 before) last (c = mark) cs
    else if c = mark then clustersFrom (⟨[c], 1⟩ :: before) (some c) true cs
    else if c = joiner then
      clustersFrom (Cluster.extend c 0 before) last (!before.isEmpty) cs
    else if c = pictureSelector then
      if last.any widens then clustersFrom (Cluster.extend c 1 before) none false cs
      else clustersFrom (Cluster.extend c 0 before) last false cs
    else if cellWidth c = 0 then clustersFrom (Cluster.extend c 0 before) last false cs
    else clustersFrom (⟨[c], cellWidth c⟩ :: before) (some c) false cs

/-- The clusters of a text. -/
def clusters (cs : List Char) : List Cluster := (clustersFrom [] none false cs).reverse

theorem Cluster.extend_flatten (c : Char) (width : Nat) (ks : List Cluster) :
    ((Cluster.extend c width ks).map Cluster.text).reverse.flatten =
      (ks.map Cluster.text).reverse.flatten ++ [c] := by
  cases ks <;> simp [Cluster.extend]

theorem clustersFrom_flatten (before : List Cluster) (last : Option Char) (joined : Bool)
    (cs : List Char) :
    ((clustersFrom before last joined cs).map Cluster.text).reverse.flatten =
      (before.map Cluster.text).reverse.flatten ++ cs := by
  fun_induction clustersFrom before last joined cs <;>
    simp_all [Cluster.extend_flatten]

/-- No character is lost. -/
theorem clusters_flatten (cs : List Char) : ((clusters cs).map Cluster.text).flatten = cs := by
  simpa [clusters] using clustersFrom_flatten [] none false cs

/-- The text of the clusters that have room in `n` cells.  A blank stands for half
of a wide one. -/
def cropped (n : Nat) : List Cluster → List Char
  | [] => []
  | k :: ks =>
    if n = 0 then []
    else if k.width ≤ n then k.text ++ cropped (n - k.width) ks
    else [' ']

/-- The text in `n` cells: with blanks after it, or cropped. -/
def fit (n : Nat) (cs : List Char) : List Char :=
  if cellLength cs ≤ n then cs ++ List.replicate (n - cellLength cs) ' '
  else cropped n (clusters cs)

theorem fit_eq_self {n : Nat} {cs : List Char} (h : cellLength cs = n) : fit n cs = cs := by
  simp [fit, h]

end ResourceSymbols.Text
