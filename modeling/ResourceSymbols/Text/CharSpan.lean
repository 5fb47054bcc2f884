/-!
# Spans of code points

A class of characters is given by a list of closed spans of code points.
-/

namespace ResourceSymbols.Text

/-- Whether the code point of `c` lies in one of the spans. -/
def inSpans (spans : List (Nat × Nat)) (c : Char) : Bool :=
  spans.any fun r => decide (r.1 ≤ c.toNat) && decide (c.toNat ≤ r.2)

theorem inSpans_iff {spans : List (Nat × Nat)} {c : Char} :
    inSpans spans c = true ↔ ∃ r ∈ spans, r.1 ≤ c.toNat ∧ c.toNat ≤ r.2 := by
  simp [inSpans]

end ResourceSymbols.Text
