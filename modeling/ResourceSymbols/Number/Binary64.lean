/-!
# Binary numbers of 64 bits

A real is kept as its 64 bits: the sign, eleven bits of exponent and 52 bits of
fraction.  A finite one is `significand * 2 ^ exponent`.  Reading a decimal takes
the nearest of them, of two equally near the one with an even significand.
-/

namespace ResourceSymbols.Number

/-- A binary floating point number of 64 bits. -/
structure Binary64 where
  bits : UInt64
deriving DecidableEq, Repr

namespace Binary64

/-- Whether the sign is set. -/
def isNegative (x : Binary64) : Bool := decide (Nat.pow 2 63 ≤ x.bits.toNat)

/-- The eleven bits of the exponent. -/
def exponentField (x : Binary64) : Nat := x.bits.toNat / Nat.pow 2 52 % Nat.pow 2 11

/-- The 52 bits of the fraction. -/
def fraction (x : Binary64) : Nat := x.bits.toNat % Nat.pow 2 52

/-- The number without its sign as a multiple of `2 ^ exponent`. -/
def significand (x : Binary64) : Nat :=
  if x.exponentField = 0 then x.fraction else Nat.pow 2 52 + x.fraction

/-- The power of two that the significand counts. -/
def exponent (x : Binary64) : Int := (max x.exponentField 1 : Nat) - 1075

/-- Whether the number is neither infinite nor without a value. -/
def isFinite (x : Binary64) : Bool := decide (x.exponentField < 2047)

/-- Whether the bits stand for no number. -/
def isNaN (x : Binary64) : Bool := decide (x.exponentField = 2047 ∧ x.fraction ≠ 0)

/-- Whether the number is zero, with either sign. -/
def isZero (x : Binary64) : Bool := decide (x.bits.toNat % Nat.pow 2 63 = 0)

/-- The number with the given sign and the given other bits. -/
def ofParts (negative : Bool) (rest : Nat) : Binary64 :=
  ⟨UInt64.ofNat ((if negative then Nat.pow 2 63 else 0) + rest)⟩

/-- The bits of infinity without the sign; no finite number has as many. -/
def infinityBits : Nat := 2047 * Nat.pow 2 52

/-- Infinity with the given sign. -/
def infinity (negative : Bool) : Binary64 := ofParts negative infinityBits

/-- Bits that stand for no number. -/
def nan : Binary64 := ofParts false (infinityBits + Nat.pow 2 51)

/-- The integer nearest to `num / den`, of two equally near the even one. -/
def roundQuotient (num den : Nat) : Nat :=
  let q := num / den
  let r := num % den
  if 2 * r < den then q
  else if den < 2 * r then q + 1
  else if q % 2 = 0 then q else q + 1

/-- The integer nearest to `k` times the number without its sign. -/
def scaled (k : Nat) (x : Binary64) : Nat :=
  roundQuotient (k * x.significand * Nat.pow 2 x.exponent.toNat)
    (Nat.pow 2 (-x.exponent).toNat)

/-- The number nearest to the quotient of two positive integers. -/
def ofRatio (negative : Bool) (num den : Nat) : Binary64 :=
  let scaled (e : Int) : Nat × Nat :=
    if 0 ≤ e then (num, den * Nat.pow 2 e.toNat) else (num * Nat.pow 2 (-e).toNat, den)
  let guess : Int := (Nat.log2 num : Int) - Nat.log2 den - 52
  let fitting :=
    if (scaled guess).1 < (scaled guess).2 * Nat.pow 2 52 then guess - 1 else guess
  let e := max fitting (-1074)
  let rest := (e + 1074).toNat * Nat.pow 2 52 + roundQuotient (scaled e).1 (scaled e).2
  ofParts negative (min rest infinityBits)

/-- The number nearest to `m * 10 ^ e`.  Powers far beyond the greatest number or
below the least one are not computed. -/
def ofDecimal (negative : Bool) (m : Nat) (e : Int) : Binary64 :=
  if m = 0 then ofParts negative 0
  else
    let size : Int := (Nat.toDigits 10 m).length + e
    if 310 < size then infinity negative
    else if size < -330 then ofParts negative 0
    else if 0 ≤ e then ofRatio negative (m * Nat.pow 10 e.toNat) 1
    else ofRatio negative m (Nat.pow 10 (-e).toNat)

end Binary64

end ResourceSymbols.Number
