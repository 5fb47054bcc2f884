/-!
# Integers in decimal

An integer is written in decimal only up to a limit on its digits.  What is
longer has no decimal text, and a message that would hold it gives the limit
instead.
-/

namespace ResourceSymbols.Number

/-- The most digits of a decimal text. -/
def digitLimit : Nat := 4300

/-- The integer in decimal, if that takes no more digits than the limit. -/
def decimal? (n : Int) : Option String :=
  if n.natAbs < Nat.pow 10 digitLimit then some (toString n) else none

/-- What stands in place of a text that would hold too long an integer. -/
def digitLimitText : String :=
  s!"Exceeds the limit ({digitLimit} digits) for integer string conversion; " ++
    "use sys.set_int_max_str_digits() to increase the limit"

/-- What stands in place of an integer read from too many digits. -/
def tooManyDigitsText (count : Nat) : String :=
  s!"Exceeds the limit ({digitLimit} digits) for integer string conversion: " ++
    s!"value has {count} digits; use sys.set_int_max_str_digits() to increase the limit"

end ResourceSymbols.Number
