/-!
# Hexadecimal digits

Numbers of a fixed width, as they stand in an escape or in a packed identifier.

## Main results

* `length_hexDigits` — the width is kept.
-/

namespace ResourceSymbols.Text

/-- The low four bits of `n` as a hexadecimal digit. -/
def hexDigit (n : Nat) : Char := Nat.digitChar (n % 16)

/-- The last `width` hexadecimal digits of `n`. -/
def hexDigits : Nat → Nat → List Char
  | 0, _ => []
  | width + 1, n => hexDigits width (n / 16) ++ [hexDigit n]

@[simp] theorem length_hexDigits (width n : Nat) : (hexDigits width n).length = width := by
  induction width generalizing n with
  | zero => rfl
  | succ width ih => simp [hexDigits, ih]

/-- The hexadecimal digits of `n`, as many as it has. -/
def hex (n : Nat) : String := String.ofList (Nat.toDigits 16 n)

end ResourceSymbols.Text
