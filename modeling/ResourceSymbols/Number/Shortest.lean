import ResourceSymbols.Number.Binary64

/-!
# The shortest decimal of a real

Every finite number is the nearest one to a whole interval of reals.  Its
shortest decimal is the one with the fewest digits in that interval, and of
those the nearest to the number.  If a decimal with `n` digits lies in the
interval, so does one of the two neighbours of the number among the decimals
with `n` digits, so only these are tried.
-/

namespace ResourceSymbols.Number

/-- `digits * 10 ^ exponent`. -/
structure Decimal where
  digits : Nat
  exponent : Int
deriving DecidableEq, Repr

/-- A positive rational number. -/
structure Ratio where
  num : Nat
  den : Nat

namespace Ratio

/-- `n * 2 ^ a * 10 ^ b`. -/
def scaled (n : Nat) (a b : Int) : Ratio :=
  { num := n * Nat.pow 2 a.toNat * Nat.pow 10 b.toNat
    den := Nat.pow 2 (-a).toNat * Nat.pow 10 (-b).toNat }

/-- Whether the first number is less than the second. -/
def lt (x y : Ratio) : Bool := decide (x.num * y.den < y.num * x.den)

/-- Whether the first number is at most the second. -/
def le (x y : Ratio) : Bool := decide (x.num * y.den ≤ y.num * x.den)

end Ratio

namespace Binary64

/-- Whether `n * 10 ^ e` lies among the reals that `x` is the nearest number to.
The ends of the interval do if the significand is even. -/
def rounds (x : Binary64) (n : Nat) (e : Int) : Bool :=
  let m := x.significand
  let below := if x.fraction = 0 ∧ 1 < x.exponentField then 1 else 2
  let low := Ratio.scaled (4 * m - below) (x.exponent - 2) 0
  let high := Ratio.scaled (4 * m + 2) (x.exponent - 2) 0
  let value := Ratio.scaled n 0 e
  if m % 2 = 0 then low.le value && value.le high else low.lt value && value.lt high

/-- The greatest `k` with `10 ^ k` at most `x`, up from a start that is low enough.
-/
def magnitudeFrom (x : Binary64) : Nat → Int → Int
  | 0, k => k
  | fuel + 1, k =>
    if (Ratio.scaled 1 0 (k + 1)).le (Ratio.scaled x.significand x.exponent 0) then
      magnitudeFrom x fuel (k + 1)
    else k

/-- The exponent of the first digit of `x`. -/
def magnitude (x : Binary64) : Int :=
  let log := (Nat.log2 x.significand : Int) + x.exponent
  magnitudeFrom x 3 (log * 30103 / 100000 - 1)

/-- The better of the two neighbours of `x` among the multiples of `10 ^ e`, if
one of them reads as `x`. -/
def neighbour? (x : Binary64) (e : Int) : Option Decimal :=
  let value := Ratio.scaled x.significand x.exponent (-e)
  let n := value.num / value.den
  let rest := value.num % value.den
  match x.rounds n e, x.rounds (n + 1) e with
  | false, false => none
  | true, false => some ⟨n, e⟩
  | false, true => some ⟨n + 1, e⟩
  | true, true =>
    let lower := decide (2 * rest < value.den) ||
      (decide (2 * rest = value.den) && decide (n % 2 = 0))
    some ⟨if lower then n else n + 1, e⟩

/-- The shortest decimal that reads as the finite number `x`, its sign apart. -/
def shortest (x : Binary64) : Decimal :=
  if x.isZero then ⟨0, 0⟩
  else
    let k := x.magnitude
    ((List.range 17).findSome? fun (n : Nat) => x.neighbour? (k - n)).getD ⟨x.significand, x.exponent⟩

end Binary64

/-- How the numbers without digits are spelt. -/
structure RealWords where
  nan : String
  infinity : String

/-- The digits without the zeros at the end. -/
def dropFinalZeros (cs : List Char) : List Char :=
  (cs.reverse.dropWhile (· = '0')).reverse

/-- Lays out the decimal: with a point and at least one digit on each side of it
if its first digit stands for `10 ^ -4` to `10 ^ 15`, and else with one digit
before the point and an exponent of at least two digits. -/
def Decimal.layout (d : Decimal) : String :=
  let all := Nat.toDigits 10 d.digits
  let digits := match dropFinalZeros all with
    | [] => ['0']
    | ds => ds
  let k : Int := if d.digits = 0 then 0 else all.length - 1 + d.exponent
  if 0 ≤ k ∧ k < 16 then
    let n := k.toNat + 1
    let whole := digits.take n ++ List.replicate (n - digits.length) '0'
    let part := match digits.drop n with
      | [] => ['0']
      | ds => ds
    String.ofList (whole ++ '.' :: part)
  else if -4 ≤ k ∧ k < 0 then
    String.ofList ('0' :: '.' :: List.replicate ((-k).toNat - 1) '0' ++ digits)
  else
    let point := match digits with
      | d :: [] => [d]
      | d :: ds => d :: '.' :: ds
      | [] => []
    let exponent := Nat.toDigits 10 k.natAbs
    String.ofList (point ++ 'e' :: (if k < 0 then '-' else '+') ::
      List.replicate (2 - exponent.length) '0' ++ exponent)

/-- The real in its shortest decimal. -/
def Binary64.text (words : RealWords) (x : Binary64) : String :=
  let unsigned :=
    if x.isFinite then x.shortest.layout else words.infinity
  if x.isNaN then words.nan else if x.isNegative then "-" ++ unsigned else unsigned

end ResourceSymbols.Number
