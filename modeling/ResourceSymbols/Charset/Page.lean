/-!
# Pages

A page gives each octet at most one character.
-/

namespace ResourceSymbols.Charset

/-- A page. -/
structure Page where
  name : String
  /-- The block of its letters, unless they are Latin. -/
  block : Option String
  /-- Pages before this one by name that spell most texts alike. -/
  relatives : List String
  /-- Runs of octets, from the first of each, with the characters that they spell:
  U+FFFD where they spell none.  Any other octet spells the code point of its own
  number. -/
  runs : List (Nat × List String)
deriving DecidableEq, Repr

namespace Page

/-- What the octets from zero on spell, U+FFFD standing for nothing. -/
def cells (p : Page) : Array Char :=
  p.runs.foldl
    (fun cells run =>
      ((run.2.flatMap String.toList).zipIdx run.1).foldl
        (fun cells e => cells.setIfInBounds e.2 e.1) cells)
    ((List.range 256).map Char.ofNat).toArray

/-- The text that the octets spell, if each of them spells a character. -/
def decode? (p : Page) (octets : List UInt8) : Option (List Char) :=
  let cells := p.cells
  octets.mapM fun o => cells[o.toNat]?.filter (· != '\uFFFD')

/-- Each octet of a page spells one character. -/
theorem length_of_decode? {p : Page} {octets : List UInt8} {cs : List Char}
    (h : p.decode? octets = some cs) : cs.length = octets.length := by
  induction octets generalizing cs with
  | nil => simp_all [decode?]
  | cons o rest ih =>
    simp only [decode?, List.mapM_cons, Option.bind_eq_bind, Option.bind_eq_some_iff,
      Option.pure_def, Option.some.injEq] at h ih
    obtain ⟨c, -, tail, htail, rfl⟩ := h
    simp [ih htail]

end Page

end ResourceSymbols.Charset
