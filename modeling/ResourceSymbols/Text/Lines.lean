import ResourceSymbols.Text.CharSpan
import ResourceSymbols.Text.CodePoint

/-!
# Lines

A text read from a file has its line ends written in one way: a carriage return,
alone or before a line feed, stands for a line feed.  A place in a text is given
by its offset, or by the line and the column that the offset falls on.  A text
that is shown comes apart into lines at the line ends of all scripts.

## Main results

* `not_mem_foldLineEnds` — no carriage return is left.
* `foldLineEnds_eq_self` — a text without one is kept as it is.
* `not_endsLine_of_mem_lines` — a line holds no line end.
-/

namespace ResourceSymbols.Text

/-- The text with each line end written as a single line feed. -/
def foldLineEnds : List Char → List Char
  | [] => []
  | '\r' :: '\n' :: cs => '\n' :: foldLineEnds cs
  | c :: cs => (if c = '\r' then '\n' else c) :: foldLineEnds cs

theorem not_mem_foldLineEnds (cs : List Char) : '\r' ∉ foldLineEnds cs := by
  fun_induction foldLineEnds cs with
  | case1 => simp
  | case2 cs ih => simp [ih]
  | case3 c cs _ ih =>
    by_cases h : c = '\r'
    · simp [h, ih]
    · simp [h, ih, Ne.symm h]

theorem foldLineEnds_eq_self {cs : List Char} (h : '\r' ∉ cs) : foldLineEnds cs = cs := by
  fun_induction foldLineEnds cs with
  | case1 => rfl
  | case2 cs => simp at h
  | case3 c cs _ ih =>
    simp only [List.mem_cons, not_or] at h
    simp [Ne.symm h.1, ih h.2]

/-- Whether `c` ends a line. -/
def endsLine (c : Char) : Bool :=
  inSpans [(0xA, 0xD), (0x1C, 0x1E), (0x85, 0x85), (0x2028, 0x2029)] c

/-- The lines of a text, without their ends.  A carriage return and a line feed
are one end, and nothing after the last end is no line. -/
def lines : List Char → List (List Char)
  | [] => []
  | '\r' :: '\n' :: cs => [] :: lines cs
  | c :: cs =>
    if endsLine c then [] :: lines cs
    else
      match lines cs with
      | [] => [[c]]
      | l :: ls => (c :: l) :: ls

theorem not_endsLine_of_mem_lines {cs l : List Char} (hl : l ∈ lines cs) {c : Char}
    (hc : c ∈ l) : endsLine c = false := by
  fun_induction lines cs generalizing l with
  | case1 => simp at hl
  | case2 cs ih =>
    rcases List.mem_cons.1 hl with rfl | h
    · simp at hc
    · exact ih h hc
  | case3 d cs _ hd ih =>
    rcases List.mem_cons.1 hl with rfl | h
    · simp at hc
    · exact ih h hc
  | case4 d cs _ hd hn ih =>
    simp only [List.mem_singleton] at hl
    subst hl
    simp only [List.mem_singleton] at hc
    subst hc
    simpa using hd
  | case5 d cs _ hd m ms hm ih =>
    rcases List.mem_cons.1 hl with rfl | h
    · rcases List.mem_cons.1 hc with rfl | h
      · simpa using hd
      · exact ih (by simp [hm]) h
    · exact ih (by simp [hm, h]) hc

/-- A place in a text, counted in code points. -/
structure Place where
  /-- How many code points stand before it. -/
  offset : Nat
  /-- Its line; the first line is line 1. -/
  line : Nat
  /-- Its column; the first code point of a line is in column 1. -/
  column : Nat
deriving DecidableEq, Repr

/-- The place after the first `count` characters of the text `cs`. -/
def placeAt (cs : List Char) (count : Nat) : Place :=
  let before := cs.take count
  { offset := pointCount before
    line := before.count '\n' + 1
    column := pointCount (before.reverse.takeWhile (· ≠ '\n')) + 1 }

/-- The place in words, as a message about a text ends. -/
def Place.describe (p : Place) : String :=
  s!"line {p.line} column {p.column} (char {p.offset})"

end ResourceSymbols.Text
