import Mathlib.Algebra.Order.Field.Power
import Mathlib.Tactic.Linarith
import Mathlib.Tactic.Ring
import ResourceSymbols.Number.Binary64

/-!
# The number that a decimal is nearest to

A finite number is the nearest one to an interval of reals around it, which is narrower below
where the steps between the numbers become smaller.  A decimal is read by rounding a quotient of
integers to 53 binary digits.  So what lies in the interval of a number is read as the number,
even if the quotient is first taken in smaller steps and rounded up to the next power of two.

## Main results

* `eq_ofParts` — a number is made of its sign and its other bits.
* `fitting_bounds` — a quotient takes 53 binary digits in the steps chosen for it.
* `ofRatio_eq` — a number is read from a quotient that it is the nearest one to.
* `ofDecimal_eq` — a number is read from a decimal that it is the nearest one to.
-/

namespace ResourceSymbols.Number.Binary64

/-! ## The parts of a real -/

theorem fraction_lt (x : Binary64) : x.fraction < 2 ^ 52 := Nat.mod_lt _ (by decide)

theorem isFinite_iff {x : Binary64} : x.isFinite = true ↔ x.exponentField < 2047 :=
  decide_eq_true_iff

/-- A real is made of its sign and its other bits. -/
theorem eq_ofParts (x : Binary64) :
    x = ofParts x.isNegative (x.exponentField * 2 ^ 52 + x.fraction) := by
  obtain ⟨bits⟩ := x
  have hBits := bits.toNat_lt
  have hWhole : (if isNegative ⟨bits⟩ then Nat.pow 2 63 else 0) +
      (exponentField ⟨bits⟩ * 2 ^ 52 + fraction ⟨bits⟩) = bits.toNat := by
    simp only [isNegative, exponentField, fraction, Nat.pow_eq, decide_eq_true_eq]
    norm_num at hBits ⊢
    split <;> omega
  rw [ofParts, hWhole, UInt64.ofNat_toNat]

theorem exponent_ge (x : Binary64) : -1074 ≤ x.exponent := by
  unfold exponent
  omega

theorem exponent_le {x : Binary64} (hFinite : x.isFinite = true) : x.exponent ≤ 971 := by
  have hField := isFinite_iff.1 hFinite
  unfold exponent
  omega

theorem significand_lt (x : Binary64) : x.significand < 2 ^ 53 := by
  have hFraction := x.fraction_lt
  unfold significand
  rw [Nat.pow_eq]
  split <;> omega

/-- Only the least reals have a small significand. -/
theorem significand_ge {x : Binary64} (hExponent : -1074 < x.exponent) :
    2 ^ 52 ≤ x.significand := by
  unfold exponent at hExponent
  unfold significand
  rw [Nat.pow_eq, if_neg (by omega)]
  exact Nat.le_add_right _ _

/-- The bits without the sign count how often the exponent was raised, and the significand. -/
theorem bits_eq (x : Binary64) :
    x.exponentField * 2 ^ 52 + x.fraction =
      (x.exponent + 1074).toNat * 2 ^ 52 + x.significand := by
  unfold exponent significand
  rw [Nat.pow_eq]
  split
  · rename_i hZero
    rw [hZero]
    omega
  · rename_i hRaised
    have hTimes : ((max x.exponentField 1 : Nat) - 1075 + 1074 : Int).toNat =
        x.exponentField - 1 := by omega
    rw [hTimes]
    omega

/-! ## Rounding a quotient -/

/-- The nearest integer, and the even one of two. -/
theorem roundQuotient_eq {num den m : Nat} (hDen : 0 < den) (hLow : 2 * (m * den) ≤ 2 * num + den)
    (hHigh : 2 * num ≤ 2 * (m * den) + den)
    (hOdd : m % 2 = 1 → 2 * (m * den) ≠ 2 * num + den ∧ 2 * num ≠ 2 * (m * den) + den) :
    roundQuotient num den = m := by
  have hRest := Nat.mod_lt num hDen
  have hWhole : num / den * den + num % den = num := Nat.div_add_mod' num den
  have hBelow : m ≤ num / den + 1 := by
    by_contra hOver
    have hProduct : (num / den + 2) * den ≤ m * den := Nat.mul_le_mul_right _ (by omega)
    rw [Nat.add_mul] at hProduct
    omega
  have hAbove : num / den ≤ m := by
    by_contra hUnder
    have hProduct : (m + 1) * den ≤ num / den * den := Nat.mul_le_mul_right _ (by omega)
    rw [Nat.add_mul] at hProduct
    omega
  unfold roundQuotient
  dsimp only
  rcases Nat.lt_or_ge m (num / den + 1) with hSame | hNext
  · obtain rfl : num / den = m := by omega
    split
    · rfl
    · split
      · omega
      · split
        · rfl
        · omega
  · obtain rfl : num / den + 1 = m := by omega
    rw [Nat.add_mul, Nat.one_mul] at hLow hHigh hOdd
    split
    · omega
    · split
      · rfl
      · split
        · omega
        · rfl

/-! ## The reals around a number -/

/-- The number without its sign. -/
def modulus (x : Binary64) : Rat := x.significand * 2 ^ x.exponent

/-- How far the reals below the number reach, in steps of its significand.  They reach half as
far where the next number below has a smaller exponent. -/
def reach (x : Binary64) : Rat := if x.fraction = 0 ∧ 1 < x.exponentField then 1 / 4 else 1 / 2

/-- The number is the nearest one to `v`, and the even one of two. -/
structure Rounds (x : Binary64) (v : Rat) : Prop where
  low : (x.significand - x.reach) * 2 ^ x.exponent ≤ v
  high : v ≤ (x.significand + 1 / 2) * 2 ^ x.exponent
  odd : x.significand % 2 = 1 → (x.significand - x.reach) * 2 ^ x.exponent ≠ v ∧
    v ≠ (x.significand + 1 / 2) * 2 ^ x.exponent

theorem reach_le (x : Binary64) : x.reach ≤ 1 / 2 := by
  unfold reach
  split <;> norm_num

theorem reach_pos (x : Binary64) : 0 < x.reach := by
  unfold reach
  split <;> norm_num

theorem power_pos (e : Int) : (0 : Rat) < 2 ^ e := zpow_pos (by norm_num) e

theorem roundQuotient_eq_of_rat {a b m : Nat} (hDen : 0 < b) (hLow : (m : Rat) - 1 / 2 ≤ a / b)
    (hHigh : (a / b : Rat) ≤ m + 1 / 2)
    (hOdd : m % 2 = 1 → (m : Rat) - 1 / 2 ≠ a / b ∧ (a / b : Rat) ≠ m + 1 / 2) :
    roundQuotient a b = m := by
  have hPos : (0 : Rat) < b := by exact_mod_cast hDen
  rw [le_div_iff₀ hPos] at hLow
  rw [div_le_iff₀ hPos] at hHigh
  refine roundQuotient_eq hDen ?_ ?_ fun hm =>
    ⟨fun hSame => (hOdd hm).1 ?_, fun hSame => (hOdd hm).2 ?_⟩
  · have h : (2 * (m * b) : Rat) ≤ 2 * a + b := by linarith
    exact_mod_cast h
  · have h : (2 * a : Rat) ≤ 2 * (m * b) + b := by linarith
    exact_mod_cast h
  · have h : (2 * (m * b) : Rat) = 2 * a + b := by exact_mod_cast hSame
    rw [eq_div_iff hPos.ne']
    linarith
  · have h : (2 * a : Rat) = 2 * (m * b) + b := by exact_mod_cast hSame
    rw [div_eq_iff hPos.ne']
    linarith

/-! ## The nearest number to a quotient -/

/-- The quotient counted in steps of `2 ^ e`, as two integers. -/
def scaledBy (num den : Nat) (e : Int) : Nat × Nat :=
  if 0 ≤ e then (num, den * Nat.pow 2 e.toNat) else (num * Nat.pow 2 (-e).toNat, den)

/-- The exponent for which the quotient takes 53 binary digits. -/
def fitting (num den : Nat) : Int :=
  let guess : Int := (Nat.log2 num : Int) - Nat.log2 den - 52
  if (scaledBy num den guess).1 < (scaledBy num den guess).2 * Nat.pow 2 52 then guess - 1
  else guess

/-- The bits of the quotient, rounded to steps of `2 ^ e`. -/
def roundedBits (num den : Nat) (e : Int) : Nat :=
  min ((e + 1074).toNat * Nat.pow 2 52 +
    roundQuotient (scaledBy num den e).1 (scaledBy num den e).2) infinityBits

theorem ofRatio_eq_ofParts (negative : Bool) (num den : Nat) :
    ofRatio negative num den =
      ofParts negative (roundedBits num den (max (fitting num den) (-1074))) := by
  have hScaled : scaledBy num den = fun e =>
      if 0 ≤ e then (num, den * Nat.pow 2 e.toNat) else (num * Nat.pow 2 (-e).toNat, den) := rfl
  unfold roundedBits fitting
  rw [hScaled]
  unfold ofRatio
  with_reducible rfl

theorem scaledBy_pos {den : Nat} (hDen : 0 < den) (num : Nat) (e : Int) :
    0 < (scaledBy num den e).2 := by
  unfold scaledBy
  split
  · exact Nat.mul_pos hDen (Nat.pow_pos (by decide))
  · exact hDen

theorem scaledBy_eq (num den : Nat) (e : Int) :
    ((scaledBy num den e).1 / (scaledBy num den e).2 : Rat) = num / den / 2 ^ e := by
  unfold scaledBy
  split
  · rename_i hSign
    obtain ⟨k, rfl⟩ := Int.eq_ofNat_of_zero_le hSign
    simp only [Int.toNat_natCast, Nat.pow_eq]
    push_cast
    rw [zpow_natCast, div_div]
  · rename_i hSign
    obtain ⟨k, rfl⟩ := Int.exists_eq_neg_ofNat (Int.le_of_lt (Int.not_le.1 hSign))
    simp only [neg_neg, Int.toNat_natCast, Nat.pow_eq]
    push_cast
    rw [zpow_neg, zpow_natCast, div_inv_eq_mul, mul_div_right_comm]

/-- The guess is too high exactly if the quotient takes fewer digits in its steps. -/
theorem guess_high_iff (num : Nat) {den : Nat} (hDen : 0 < den) (guess : Int) :
    (scaledBy num den guess).1 < (scaledBy num den guess).2 * Nat.pow 2 52 ↔
      (num / den : Rat) < 2 ^ (guess + 52) := by
  have hPos : (0 : Rat) < (scaledBy num den guess).2 := by
    exact_mod_cast scaledBy_pos hDen num guess
  have hScaled := scaledBy_eq num den guess
  rw [div_eq_iff hPos.ne'] at hScaled
  rw [zpow_add₀ (by norm_num), ← div_lt_iff₀' (power_pos guess), Nat.pow_eq,
    ← Nat.cast_lt (α := Rat), hScaled]
  push_cast
  rw [mul_comm, mul_lt_mul_iff_right₀ hPos]

/-- The quotient takes 53 binary digits in steps of its fitting exponent. -/
theorem fitting_bounds {num den : Nat} (hNum : 0 < num) (hDen : 0 < den) :
    (2 : Rat) ^ (fitting num den + 52) ≤ num / den ∧
      (num / den : Rat) < 2 ^ (fitting num den + 53) := by
  have hPos : (0 : Rat) < den := by exact_mod_cast hDen
  have hNumLow : (2 : Rat) ^ (Nat.log2 num : Int) ≤ num := by
    rw [zpow_natCast]
    exact_mod_cast Nat.log2_self_le hNum.ne'
  have hNumHigh : (num : Rat) < 2 ^ (Nat.log2 num + 1 : Int) := by
    have h : num < 2 ^ (Nat.log2 num + 1) := Nat.lt_log2_self
    exact_mod_cast h
  have hDenLow : (2 : Rat) ^ (Nat.log2 den : Int) ≤ den := by
    rw [zpow_natCast]
    exact_mod_cast Nat.log2_self_le hDen.ne'
  have hDenHigh : (den : Rat) < 2 ^ (Nat.log2 den + 1 : Int) := by
    have h : den < 2 ^ (Nat.log2 den + 1) := Nat.lt_log2_self
    exact_mod_cast h
  -- The guess is right or one too high.
  have hLow : (2 : Rat) ^ ((Nat.log2 num : Int) - (Nat.log2 den + 1)) < num / den := by
    rw [zpow_sub₀ (by norm_num)]
    exact div_lt_div₀' hNumLow hDenHigh (by positivity) hPos
  have hHigh : (num / den : Rat) < 2 ^ ((Nat.log2 num + 1 : Int) - Nat.log2 den) := by
    rw [zpow_sub₀ (by norm_num)]
    exact div_lt_div₀ hNumHigh hDenLow (by positivity) (by positivity)
  have hGuess := guess_high_iff num hDen ((Nat.log2 num : Int) - Nat.log2 den - 52)
  unfold fitting
  dsimp only
  split
  · rename_i hUnder
    refine ⟨le_trans (zpow_le_zpow_right₀ (by norm_num) ?_) hLow.le, ?_⟩
    · omega
    · convert hGuess.1 hUnder using 2
      omega
  · rename_i hOver
    refine ⟨not_lt.1 fun hUnder => hOver (hGuess.2 hUnder), ?_⟩
    convert hHigh using 2
    omega

/-- What the number is nearest to is rounded to its significand in its own steps. -/
theorem roundQuotient_scaledBy {x : Binary64} {num den : Nat} (hDen : 0 < den)
    (hRounds : x.Rounds (num / den)) :
    roundQuotient (scaledBy num den x.exponent).1 (scaledBy num den x.exponent).2 =
      x.significand := by
  have hPower := power_pos x.exponent
  have hLow := hRounds.low
  have hHigh := hRounds.high
  rw [← le_div_iff₀ hPower] at hLow
  rw [← div_le_iff₀ hPower] at hHigh
  have hReach := x.reach_le
  refine roundQuotient_eq_of_rat (scaledBy_pos hDen num _) ?_ ?_ fun hOdd => ?_
  · rw [scaledBy_eq]
    linarith
  · rw [scaledBy_eq]
    exact hHigh
  · obtain ⟨hNotLow, hNotHigh⟩ := hRounds.odd hOdd
    rw [ne_eq, ← eq_div_iff hPower.ne'] at hNotLow
    rw [ne_eq, ← div_eq_iff hPower.ne'] at hNotHigh
    rw [scaledBy_eq]
    refine ⟨fun hSame => hNotLow (le_antisymm hLow ?_), hNotHigh⟩
    linarith

/-- Where the number is the nearest one, the quotient does not take higher steps. -/
theorem fitting_le {x : Binary64} {num den : Nat} (hNum : 0 < num) (hDen : 0 < den)
    (hRounds : x.Rounds (num / den)) : fitting num den ≤ x.exponent := by
  obtain ⟨hFits, -⟩ := fitting_bounds hNum hDen
  have hSignificand : (x.significand : Rat) + 1 / 2 < 2 ^ 53 := by
    have h : (x.significand : Rat) + 1 ≤ 2 ^ 53 := by exact_mod_cast x.significand_lt
    linarith
  have hBelow : (num / den : Rat) < 2 ^ (53 + x.exponent) := by
    refine lt_of_le_of_lt hRounds.high ?_
    rw [zpow_add₀ (by norm_num)]
    exact mul_lt_mul_of_pos_right hSignificand (power_pos x.exponent)
  have hPowers := (zpow_lt_zpow_iff_right₀ (by norm_num)).1 (lt_of_le_of_lt hFits hBelow)
  omega

/-- Where the quotient takes lower steps, the number is the least one with its exponent, and
the quotient is just below. -/
theorem rounds_below {x : Binary64} {num den : Nat} (hNum : 0 < num) (hDen : 0 < den)
    (hRounds : x.Rounds (num / den)) (hLower : fitting num den < x.exponent)
    (hExponent : -1074 < x.exponent) :
    x.significand = 2 ^ 52 ∧ fitting num den = x.exponent - 1 ∧
      ((2 : Rat) ^ 53 - 1 / 2) * 2 ^ (x.exponent - 1) ≤ num / den := by
  obtain ⟨-, hFits⟩ := fitting_bounds hNum hDen
  have hPower := power_pos (x.exponent - 1)
  have hStep : (2 : Rat) ^ x.exponent = 2 * 2 ^ (x.exponent - 1) := by
    rw [← zpow_one_add₀ (by norm_num)]
    congr 1
    omega
  have hHigh : (num / den : Rat) < 2 ^ 53 * 2 ^ (x.exponent - 1) := by
    refine lt_of_lt_of_le hFits ?_
    rw [add_comm, zpow_add₀ (by norm_num)]
    exact mul_le_mul_of_nonneg_left (zpow_le_zpow_right₀ (by norm_num) (by omega)) (by norm_num)
  have hLow := hRounds.low
  rw [hStep] at hLow
  have hSignificand : x.significand = 2 ^ 52 := by
    refine le_antisymm ?_ (significand_ge hExponent)
    by_contra hOver
    have hMore : (2 : Rat) ^ 52 + 1 ≤ x.significand := by exact_mod_cast not_le.1 hOver
    have hReach := x.reach_le
    nlinarith
  have hReach : x.reach = 1 / 4 := by
    unfold exponent at hExponent
    unfold significand at hSignificand
    rw [Nat.pow_eq, if_neg (by omega)] at hSignificand
    exact if_pos (by omega)
  have hBelow : ((2 : Rat) ^ 53 - 1 / 2) * 2 ^ (x.exponent - 1) ≤ num / den := by
    rw [hSignificand, hReach] at hLow
    push_cast at hLow
    linarith
  refine ⟨hSignificand, ?_, hBelow⟩
  have hNear : (2 : Rat) ^ (52 + (x.exponent - 1)) < 2 ^ (fitting num den + 53) := by
    refine lt_of_lt_of_le ?_ (le_trans hBelow hFits.le)
    rw [zpow_add₀ (by norm_num)]
    exact mul_lt_mul_of_pos_right (by norm_num) hPower
  have hPowers := (zpow_lt_zpow_iff_right₀ (by norm_num)).1 hNear
  omega

/-- The number is read from a quotient that it is the nearest one to. -/
theorem ofRatio_eq {x : Binary64} (hFinite : x.isFinite = true) {num den : Nat} (hNum : 0 < num)
    (hDen : 0 < den) (hRounds : x.Rounds (num / den)) : ofRatio x.isNegative num den = x := by
  have hExponent := x.exponent_ge
  have hFitting := fitting_le hNum hDen hRounds
  have hField := isFinite_iff.1 hFinite
  have hFraction := x.fraction_lt
  have hBits := x.bits_eq
  have hRounded : roundedBits num den (max (fitting num den) (-1074)) =
      x.exponentField * 2 ^ 52 + x.fraction := by
    have hFew : x.exponentField * 2 ^ 52 + x.fraction ≤ infinityBits := by
      unfold infinityBits
      rw [Nat.pow_eq]
      omega
    unfold roundedBits
    rw [Nat.pow_eq]
    by_cases hSame : max (fitting num den) (-1074) = x.exponent
    · rw [hSame, roundQuotient_scaledBy hDen hRounds, ← hBits, min_eq_left hFew]
    · -- The quotient lies just below, and is rounded up to the next exponent.
      obtain ⟨hSignificand, hNext, hBelow⟩ :=
        rounds_below hNum hDen hRounds (by omega) (by omega)
      have hMax : max (fitting num den) (-1074) = x.exponent - 1 := by omega
      have hPower := power_pos (x.exponent - 1)
      have hQuotient : roundQuotient (scaledBy num den (x.exponent - 1)).1
          (scaledBy num den (x.exponent - 1)).2 = 2 ^ 53 := by
        have hFits := (fitting_bounds hNum hDen).2
        rw [hNext, add_comm, zpow_add₀ (by norm_num), ← div_lt_iff₀ hPower] at hFits
        rw [← le_div_iff₀ hPower] at hBelow
        refine roundQuotient_eq_of_rat (scaledBy_pos hDen num _) ?_ ?_ (by norm_num)
        · rw [scaledBy_eq]
          push_cast
          exact hBelow
        · rw [scaledBy_eq]
          push_cast
          exact le_trans hFits.le (by norm_num)
      rw [hMax, hQuotient]
      rw [hSignificand] at hBits
      have hTimes : (x.exponent - 1 + 1074).toNat * 2 ^ 52 + 2 ^ 53 =
          (x.exponent + 1074).toNat * 2 ^ 52 + 2 ^ 52 := by
        have hNextTimes : (x.exponent + 1074).toNat = (x.exponent - 1 + 1074).toNat + 1 := by omega
        rw [hNextTimes]
        ring
      rw [hTimes, ← hBits, min_eq_left hFew]
  rw [ofRatio_eq_ofParts, hRounded]
  exact x.eq_ofParts.symm

/-! ## The nearest number to a decimal -/

theorem Rounds.pos {x : Binary64} (hNotZero : x.significand ≠ 0) {v : Rat} (h : x.Rounds v) :
    0 < v := by
  have hOne : (1 : Rat) ≤ x.significand := by exact_mod_cast Nat.one_le_iff_ne_zero.2 hNotZero
  have hReach := x.reach_le
  exact lt_of_lt_of_le (mul_pos (by linarith) (power_pos _)) h.low

/-- A decimal that a finite number is nearest to is not too great to be computed. -/
theorem Rounds.lt_of_finite {x : Binary64} (hFinite : x.isFinite = true) {v : Rat}
    (h : x.Rounds v) : v < 10 ^ (310 : Int) := by
  have hSignificand : (x.significand : Rat) + 1 / 2 < 2 ^ 53 := by
    have hWhole : (x.significand : Rat) + 1 ≤ 2 ^ 53 := by exact_mod_cast x.significand_lt
    linarith
  have hPower : (2 : Rat) ^ x.exponent ≤ 2 ^ (971 : Int) :=
    zpow_le_zpow_right₀ (by norm_num) (exponent_le hFinite)
  calc v ≤ (x.significand + 1 / 2) * 2 ^ x.exponent := h.high
    _ ≤ 2 ^ 53 * 2 ^ (971 : Int) :=
      mul_le_mul hSignificand.le hPower (power_pos _).le (by norm_num)
    _ < 10 ^ (310 : Int) := by
      have hPowers : 2 ^ 53 * 2 ^ 971 < 10 ^ 310 := by decide +kernel
      exact_mod_cast hPowers

/-- It is not too small either. -/
theorem Rounds.gt_of_ne_zero {x : Binary64} (hNotZero : x.significand ≠ 0) {v : Rat}
    (h : x.Rounds v) : 10 ^ (-331 : Int) < v := by
  have hOne : (1 : Rat) ≤ x.significand := by exact_mod_cast Nat.one_le_iff_ne_zero.2 hNotZero
  have hReach := x.reach_le
  have hPower : (2 : Rat) ^ (-1074 : Int) ≤ 2 ^ x.exponent :=
    zpow_le_zpow_right₀ (by norm_num) x.exponent_ge
  have hLess : (10 : Rat) ^ (-331 : Int) < 1 / 2 * 2 ^ (-1074 : Int) := by
    have hPowers : 2 ^ 1075 < 10 ^ 331 := by decide +kernel
    have hCast : (2 : Rat) ^ (1075 : Int) < 10 ^ (331 : Int) := by exact_mod_cast hPowers
    have hHalf : (1 / 2 : Rat) * 2 ^ (-1074 : Int) = 2 ^ (-1075 : Int) := by
      rw [one_div, ← zpow_neg_one, ← zpow_add₀ (by norm_num)]
      rfl
    rw [hHalf, zpow_neg, zpow_neg]
    exact inv_strictAnti₀ (power_pos 1075) hCast
  calc (10 : Rat) ^ (-331 : Int) < 1 / 2 * 2 ^ (-1074 : Int) := hLess
    _ ≤ (x.significand - x.reach) * 2 ^ x.exponent :=
      mul_le_mul (by linarith) hPower (power_pos _).le (by linarith)
    _ ≤ v := h.low

theorem toDigits_bounds {n : Nat} (hNotZero : n ≠ 0) :
    10 ^ ((Nat.toDigits 10 n).length - 1) ≤ n ∧ n < 10 ^ (Nat.toDigits 10 n).length := by
  have hLength : 0 < (Nat.toDigits 10 n).length := Nat.length_toDigits_pos
  refine ⟨?_, (Nat.length_toDigits_le_iff (by decide) hLength).1 (Nat.le_refl _)⟩
  rcases Nat.lt_or_ge 1 (Nat.toDigits 10 n).length with hLong | hShort
  · by_contra hSmall
    have hFewer := (Nat.length_toDigits_le_iff (by decide) (by omega)).2 (not_le.1 hSmall)
    omega
  · have hOne : (Nat.toDigits 10 n).length - 1 = 0 := by omega
    rw [hOne]
    exact Nat.one_le_iff_ne_zero.2 hNotZero

/-- A finite number is read from a decimal that it is the nearest one to. -/
theorem ofDecimal_eq {x : Binary64} (hFinite : x.isFinite = true) (hNotZero : x.significand ≠ 0)
    {n : Nat} {e : Int} (hRounds : x.Rounds (n * 10 ^ e)) : ofDecimal x.isNegative n e = x := by
  have hTen : ∀ k : Int, (0 : Rat) < 10 ^ k := fun k => zpow_pos (by norm_num) k
  have hPos := hRounds.pos hNotZero
  have hDigits : n ≠ 0 := by
    rintro rfl
    simp at hPos
  obtain ⟨hLow, hHigh⟩ := toDigits_bounds hDigits
  have hLength : 0 < (Nat.toDigits 10 n).length := Nat.length_toDigits_pos
  have hSmall : ¬ (310 : Int) < (Nat.toDigits 10 n).length + e := by
    intro hGreat
    have hAtLeast : (10 : Rat) ^ (((Nat.toDigits 10 n).length - 1 : Nat) : Int) ≤ n := by
      rw [zpow_natCast]
      exact_mod_cast hLow
    have hValue : (10 : Rat) ^ (310 : Int) ≤ n * 10 ^ e := by
      refine le_trans (zpow_le_zpow_right₀ (by norm_num) ?_)
        (le_trans (zpow_add₀ (by norm_num) _ e).le
          (mul_le_mul_of_nonneg_right hAtLeast (hTen e).le))
      omega
    exact absurd (hRounds.lt_of_finite hFinite) (not_lt.2 hValue)
  have hGreat : ¬ ((Nat.toDigits 10 n).length + e : Int) < -330 := by
    intro hLess
    have hAtMost : (n : Rat) ≤ 10 ^ ((Nat.toDigits 10 n).length : Int) := by
      rw [zpow_natCast]
      exact_mod_cast hHigh.le
    have hValue : (n * 10 ^ e : Rat) ≤ 10 ^ (-331 : Int) := by
      refine le_trans (mul_le_mul_of_nonneg_right hAtMost (hTen e).le) ?_
      rw [← zpow_add₀ (by norm_num)]
      exact zpow_le_zpow_right₀ (by norm_num) (by omega)
    exact absurd (hRounds.gt_of_ne_zero hNotZero) (not_lt.2 hValue)
  unfold ofDecimal
  rw [if_neg hDigits]
  dsimp only
  rw [if_neg hSmall, if_neg hGreat]
  split
  · rename_i hSign
    obtain ⟨k, rfl⟩ := Int.eq_ofNat_of_zero_le hSign
    refine ofRatio_eq hFinite (Nat.mul_pos (Nat.pos_of_ne_zero hDigits) (Nat.pow_pos (by decide)))
      (by decide) ?_
    rw [Int.toNat_natCast, Nat.pow_eq]
    push_cast
    rwa [div_one, ← zpow_natCast]
  · rename_i hSign
    obtain ⟨k, rfl⟩ := Int.exists_eq_neg_ofNat (Int.le_of_lt (Int.not_le.1 hSign))
    refine ofRatio_eq hFinite (Nat.pos_of_ne_zero hDigits) (Nat.pow_pos (by decide)) ?_
    rw [neg_neg, Int.toNat_natCast, Nat.pow_eq]
    push_cast
    rw [zpow_neg, zpow_natCast, ← div_eq_mul_inv] at hRounds
    exact hRounds

/-- Zero is read from a decimal without a digit. -/
theorem ofDecimal_zero {x : Binary64} (hZero : x.significand = 0) (e : Int) :
    ofDecimal x.isNegative 0 e = x := by
  have hBits : x.exponentField * 2 ^ 52 + x.fraction = 0 := by
    unfold significand at hZero
    rw [Nat.pow_eq] at hZero
    split at hZero
    · omega
    · omega
  have hWhole := x.eq_ofParts
  rw [hBits] at hWhole
  rw [ofDecimal, if_pos rfl]
  exact hWhole.symm

end ResourceSymbols.Number.Binary64
