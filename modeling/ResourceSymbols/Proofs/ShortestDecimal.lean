import Mathlib.Tactic.FieldSimp
import Mathlib.Tactic.Positivity
import ResourceSymbols.Number.Shortest
import ResourceSymbols.Proofs.NearestReal

/-!
# The shortest decimal of a number

The shortest decimal is looked for among the neighbours of the number in ever smaller steps.
Seventeen digits are enough: a step of the last of them is shorter than the interval of reals
that the number is the nearest one to, so one of its two neighbours lies in there.  The first
digit is estimated from the binary digits of the number, and never too high.

## Main results

* `rounds_iff` — when a decimal lies in the interval of a number.
* `magnitude_le` — the estimate of the first digit is safe.
* `exists_neighbour` — a short step has an end in the interval.
* `shortest_rounds` — the shortest decimal lies in the interval of its number.
-/

namespace ResourceSymbols.Number

namespace Ratio

/-- The rational number. -/
def value (r : Ratio) : Rat := r.num / r.den

theorem den_scaled_pos (n : Nat) (a b : Int) : 0 < (scaled n a b).den :=
  Nat.mul_pos (Nat.pow_pos (by decide)) (Nat.pow_pos (by decide))

theorem power_split {base : Rat} (hBase : base ≠ 0) (a : Int) :
    base ^ a = base ^ a.toNat / base ^ (-a).toNat := by
  rw [← zpow_natCast, ← zpow_natCast, ← zpow_sub₀ hBase]
  congr 1
  omega

theorem value_scaled (n : Nat) (a b : Int) : (scaled n a b).value = n * 2 ^ a * 10 ^ b := by
  unfold value scaled
  rw [power_split (by norm_num) a, power_split (by norm_num) b]
  simp only [Nat.pow_eq]
  push_cast
  field_simp

/-- The quotient of the two integers is the number, rounded down. -/
theorem value_bounds {r : Ratio} (hDen : 0 < r.den) :
    ((r.num / r.den : Nat) : Rat) ≤ r.value ∧ r.value < (r.num / r.den : Nat) + 1 := by
  have hPos : (0 : Rat) < r.den := by exact_mod_cast hDen
  have hLow : r.num / r.den * r.den ≤ r.num := Nat.div_mul_le_self _ _
  have hHigh : r.num < (r.num / r.den + 1) * r.den := by
    rw [Nat.mul_comm]
    exact Nat.lt_mul_div_succ _ hDen
  rw [value, le_div_iff₀ hPos, div_lt_iff₀ hPos]
  exact ⟨by exact_mod_cast hLow, by exact_mod_cast hHigh⟩

theorem lt_iff {x y : Ratio} (hx : 0 < x.den) (hy : 0 < y.den) :
    x.lt y = true ↔ x.value < y.value := by
  have hxPos : (0 : Rat) < x.den := by exact_mod_cast hx
  have hyPos : (0 : Rat) < y.den := by exact_mod_cast hy
  rw [lt, decide_eq_true_iff, value, value, div_lt_div_iff₀ hxPos hyPos]
  exact_mod_cast Iff.rfl

theorem le_iff {x y : Ratio} (hx : 0 < x.den) (hy : 0 < y.den) :
    x.le y = true ↔ x.value ≤ y.value := by
  have hxPos : (0 : Rat) < x.den := by exact_mod_cast hx
  have hyPos : (0 : Rat) < y.den := by exact_mod_cast hy
  rw [le, decide_eq_true_iff, value, value, div_le_div_iff₀ hxPos hyPos]
  exact_mod_cast Iff.rfl

end Ratio

namespace Binary64

/-! ## The interval of a number -/

/-- The interval is told with integers. -/
theorem rounds_iff {x : Binary64} (hNotZero : x.significand ≠ 0) {n : Nat} {e : Int} :
    x.rounds n e = true ↔ x.Rounds (n * 10 ^ e) := by
  have hQuarter : (2 : Rat) ^ (x.exponent - 2) = 2 ^ x.exponent / 4 := by
    rw [zpow_sub₀ (by norm_num)]
    norm_num
  have hLow : (Ratio.scaled (4 * x.significand -
      if x.fraction = 0 ∧ 1 < x.exponentField then 1 else 2) (x.exponent - 2) 0).value =
      (x.significand - x.reach) * 2 ^ x.exponent := by
    rw [Ratio.value_scaled, Nat.cast_sub (by split <;> omega), hQuarter]
    unfold reach
    split <;> push_cast <;> ring
  have hHigh : (Ratio.scaled (4 * x.significand + 2) (x.exponent - 2) 0).value =
      (x.significand + 1 / 2) * 2 ^ x.exponent := by
    rw [Ratio.value_scaled, hQuarter]
    push_cast
    ring
  have hValue : (Ratio.scaled n 0 e).value = n * 10 ^ e := by
    rw [Ratio.value_scaled]
    simp
  unfold rounds
  dsimp only
  split
  · rename_i hEven
    rw [Bool.and_eq_true, Ratio.le_iff (Ratio.den_scaled_pos _ _ _) (Ratio.den_scaled_pos _ _ _),
      Ratio.le_iff (Ratio.den_scaled_pos _ _ _) (Ratio.den_scaled_pos _ _ _), hLow, hHigh, hValue]
    exact ⟨fun ⟨h, h'⟩ => ⟨h, h', fun hOdd => by omega⟩, fun h => ⟨h.low, h.high⟩⟩
  · rename_i hNotEven
    rw [Bool.and_eq_true, Ratio.lt_iff (Ratio.den_scaled_pos _ _ _) (Ratio.den_scaled_pos _ _ _),
      Ratio.lt_iff (Ratio.den_scaled_pos _ _ _) (Ratio.den_scaled_pos _ _ _), hLow, hHigh, hValue]
    refine ⟨fun ⟨h, h'⟩ => ⟨h.le, h'.le, fun _ => ⟨h.ne, h'.ne⟩⟩, fun h => ?_⟩
    have hOdd := h.odd (by omega)
    exact ⟨lt_of_le_of_ne h.low hOdd.1, lt_of_le_of_ne h.high hOdd.2⟩

/-- Reals inside the interval are rounded to the number, whether it is even or not. -/
theorem rounds_of_lt {x : Binary64} {v : Rat}
    (hLow : (x.significand - x.reach) * 2 ^ x.exponent < v)
    (hHigh : v < (x.significand + 1 / 2) * 2 ^ x.exponent) : x.Rounds v :=
  ⟨hLow.le, hHigh.le, fun _ => ⟨hLow.ne, hHigh.ne⟩⟩

/-! ## The first digit -/

/-- A power of ten is estimated from a power of two, one too low to be safe. -/
theorem ten_power_le {p q : Nat} (hq : q ≠ 0) (hOver : 10 ^ p ≤ 2 ^ (q + 1))
    (hUnder : 2 ^ q ≤ 10 ^ p) {k log : Int} (hLog : log ≤ q) (hEstimate : k * q ≤ log * p) :
    (10 : Rat) ^ (k - 1) ≤ 2 ^ log := by
  have hOver' : (10 : Rat) ^ p ≤ 2 ^ (q + 1) := by exact_mod_cast hOver
  have hUnder' : (2 : Rat) ^ q ≤ 10 ^ p := by exact_mod_cast hUnder
  have hPowers : ((10 : Rat) ^ p) ^ log ≤ (2 ^ q) ^ log * 10 ^ q := by
    rcases Int.lt_or_le log 0 with hNegative | hSign
    · obtain ⟨a, rfl⟩ := Int.exists_eq_neg_ofNat hNegative.le
      have hBase : (0 : Rat) ≤ 2 ^ q := by positivity
      have hLess : ((2 : Rat) ^ q) ^ a ≤ (10 ^ p) ^ a := pow_le_pow_left₀ hBase hUnder' a
      rw [zpow_neg, zpow_neg, zpow_natCast, zpow_natCast]
      have hOne : (1 : Rat) ≤ 10 ^ q := one_le_pow₀ (by norm_num)
      calc (((10 : Rat) ^ p) ^ a)⁻¹ ≤ ((2 ^ q) ^ a)⁻¹ := inv_anti₀ (by positivity) hLess
        _ ≤ ((2 ^ q) ^ a)⁻¹ * 10 ^ q := le_mul_of_one_le_right (by positivity) hOne
    · obtain ⟨a, rfl⟩ := Int.eq_ofNat_of_zero_le hSign
      have hBase : (0 : Rat) ≤ 10 ^ p := by positivity
      rw [zpow_natCast, zpow_natCast]
      calc ((10 : Rat) ^ p) ^ a
          ≤ (2 ^ (q + 1)) ^ a := pow_le_pow_left₀ hBase hOver' a
        _ = (2 ^ q) ^ a * 2 ^ a := by ring
        _ ≤ (2 ^ q) ^ a * 2 ^ q :=
          mul_le_mul_of_nonneg_left (pow_le_pow_right₀ (by norm_num) (by omega)) (by positivity)
        _ ≤ (2 ^ q) ^ a * 10 ^ q :=
          mul_le_mul_of_nonneg_left (pow_le_pow_left₀ (by norm_num) (by norm_num) q)
            (by positivity)
  refine (pow_le_pow_iff_left₀ (by positivity) (by positivity) hq).1 ?_
  calc ((10 : Rat) ^ (k - 1)) ^ q
      = 10 ^ (k * q) / 10 ^ q := by
        rw [zpow_sub₀ (by norm_num), zpow_one, div_pow, ← zpow_natCast, ← zpow_mul]
    _ ≤ 10 ^ (log * p) / 10 ^ q :=
        div_le_div_of_nonneg_right (zpow_le_zpow_right₀ (by norm_num) hEstimate) (by positivity)
    _ = (10 ^ p) ^ log / 10 ^ q := by rw [mul_comm, zpow_mul, zpow_natCast]
    _ ≤ (2 ^ q) ^ log := (div_le_iff₀ (by positivity)).2 hPowers
    _ = (2 ^ log) ^ q := by rw [← zpow_natCast, ← zpow_natCast, ← zpow_mul, ← zpow_mul, mul_comm]

theorem magnitudeFrom_le (x : Binary64) (fuel : Nat) {k : Int}
    (hStart : (10 : Rat) ^ k ≤ x.modulus) : (10 : Rat) ^ x.magnitudeFrom fuel k ≤ x.modulus := by
  induction fuel generalizing k with
  | zero => exact hStart
  | succ fuel ih =>
      rw [magnitudeFrom]
      split
      · rename_i hNext
        refine ih ?_
        rw [Ratio.le_iff (Ratio.den_scaled_pos _ _ _) (Ratio.den_scaled_pos _ _ _),
          Ratio.value_scaled, Ratio.value_scaled] at hNext
        simpa [modulus] using hNext
      · exact hStart

/-- The first digit of the number stands no higher than for the number itself. -/
theorem magnitude_le {x : Binary64} (hNotZero : x.significand ≠ 0) :
    (10 : Rat) ^ x.magnitude ≤ x.modulus := by
  have hLow : (2 : Rat) ^ ((Nat.log2 x.significand : Int) + x.exponent) ≤ x.modulus := by
    rw [zpow_add₀ (by norm_num), zpow_natCast]
    refine mul_le_mul_of_nonneg_right ?_ (power_pos _).le
    exact_mod_cast Nat.log2_self_le hNotZero
  have hLog : (Nat.log2 x.significand : Int) + x.exponent < (100000 : Nat) := by
    have hDigits : Nat.log2 x.significand < 53 := (Nat.log2_lt hNotZero).2 x.significand_lt
    have hField : x.exponentField < 2048 := Nat.mod_lt _ (by decide)
    unfold exponent
    omega
  have hOver : 10 ^ 30103 ≤ 2 ^ (100000 + 1) := by decide +kernel
  have hUnder : 2 ^ 100000 ≤ 10 ^ 30103 := by decide +kernel
  refine x.magnitudeFrom_le 3 (le_trans (ten_power_le (by decide) hOver hUnder hLog.le ?_) hLow)
  exact Int.ediv_mul_le _ (by decide)

/-! ## The neighbours of a number -/

theorem neighbour?_rounds {x : Binary64} {e : Int} {d : Decimal}
    (hFound : x.neighbour? e = some d) : x.rounds d.digits d.exponent = true := by
  unfold neighbour? at hFound
  dsimp only at hFound
  split at hFound
  · cases hFound
  · rename_i hLower _
    cases hFound
    exact hLower
  · rename_i _ hUpper
    cases hFound
    exact hUpper
  · rename_i hLower hUpper
    cases hFound
    dsimp only
    split
    · exact hLower
    · exact hUpper

/-- The significand is small against seventeen digits. -/
theorem significand_lt_reach (x : Binary64) :
    (x.significand : Rat) < (x.reach + 1 / 2) * 10 ^ 16 := by
  unfold reach
  split
  · rename_i hLeast
    have hSignificand : x.significand = 2 ^ 52 := by
      unfold significand
      rw [if_neg (by omega), hLeast.1]
      rfl
    rw [hSignificand]
    norm_num
  · have hSignificand : (x.significand : Rat) < 2 ^ 53 := by exact_mod_cast x.significand_lt
    refine lt_trans hSignificand ?_
    norm_num

/-- One end of a short step around the number is read as the number. -/
theorem rounds_or_rounds_succ {x : Binary64} (hNotZero : x.significand ≠ 0) {n : Nat} {e : Int}
    (hStep : (10 : Rat) ^ e * 10 ^ 16 ≤ x.modulus) (hBelow : (n : Rat) * 10 ^ e ≤ x.modulus)
    (hAbove : x.modulus < (n + 1) * 10 ^ e) :
    x.rounds n e = true ∨ x.rounds (n + 1) e = true := by
  have hPower := power_pos x.exponent
  have hReach := x.reach_pos
  have hSmall := x.significand_lt_reach
  rw [rounds_iff hNotZero, rounds_iff hNotZero]
  unfold modulus at hStep hBelow hAbove
  by_cases hNear : x.significand * 2 ^ x.exponent - n * 10 ^ e < x.reach * 2 ^ x.exponent
  · refine .inl (rounds_of_lt ?_ ?_)
    · linarith
    · linarith
  · -- The lower neighbour is far, so the upper one is near.
    have hShort : (10 : Rat) ^ e < (x.reach + 1 / 2) * 2 ^ x.exponent := by
      nlinarith
    refine .inr (rounds_of_lt ?_ ?_)
    · push_cast
      nlinarith
    · push_cast
      linarith

/-- In steps of its seventeenth digit the number has a neighbour that is read as it. -/
theorem exists_neighbour {x : Binary64} (hNotZero : x.significand ≠ 0) {e : Int}
    (hStep : (10 : Rat) ^ e * 10 ^ 16 ≤ x.modulus) : x.neighbour? e ≠ none := by
  have hTen : (0 : Rat) < 10 ^ e := zpow_pos (by norm_num) e
  have hRatio : (Ratio.scaled x.significand x.exponent (-e)).value * 10 ^ e = x.modulus := by
    rw [Ratio.value_scaled, zpow_neg, mul_assoc, inv_mul_cancel₀ hTen.ne', mul_one, modulus]
  obtain ⟨hLow, hHigh⟩ :=
    Ratio.value_bounds (Ratio.den_scaled_pos x.significand x.exponent (-e))
  unfold neighbour?
  generalize Ratio.scaled x.significand x.exponent (-e) = value at hRatio hLow hHigh
  dsimp only
  have hRead := rounds_or_rounds_succ hNotZero hStep
    ((mul_le_mul_of_nonneg_right hLow hTen.le).trans_eq hRatio)
    (hRatio.symm.trans_lt (mul_lt_mul_of_pos_right hHigh hTen))
  rcases hLower : x.rounds (value.num / value.den) e with _ | _
  · rcases hUpper : x.rounds (value.num / value.den + 1) e with _ | _
    · rw [hLower, hUpper] at hRead
      simp at hRead
    · simp
  · rcases hUpper : x.rounds (value.num / value.den + 1) e with _ | _
    · simp
    · simp

theorem isZero_iff {x : Binary64} : x.isZero = true ↔ x.significand = 0 := by
  have hBits : x.bits.toNat % Nat.pow 2 63 = x.exponentField * 2 ^ 52 + x.fraction := by
    simp only [exponentField, fraction, Nat.pow_eq]
    norm_num
    omega
  rw [isZero, decide_eq_true_iff, hBits]
  unfold significand
  rw [Nat.pow_eq]
  split <;> omega

/-- The shortest decimal of a number other than zero is one that the number is nearest to. -/
theorem shortest_rounds {x : Binary64} (hNotZero : x.significand ≠ 0) :
    x.Rounds (x.shortest.digits * 10 ^ x.shortest.exponent) := by
  have hLast : x.neighbour? (x.magnitude - (16 : Nat)) ≠ none := by
    refine exists_neighbour hNotZero ?_
    have hTen : (10 : Rat) ^ (x.magnitude - (16 : Nat)) * 10 ^ 16 = 10 ^ x.magnitude := by
      rw [← zpow_natCast, ← zpow_add₀ (by norm_num)]
      congr 1
      omega
    rw [hTen]
    exact magnitude_le hNotZero
  have hSome : ((List.range 17).findSome? fun n : Nat =>
      x.neighbour? (x.magnitude - n)).isSome := by
    rw [List.findSome?_isSome_iff]
    exact ⟨16, by decide, Option.isSome_iff_ne_none.2 hLast⟩
  obtain ⟨d, hFound⟩ := Option.isSome_iff_exists.1 hSome
  obtain ⟨n, -, hNeighbour⟩ := List.exists_of_findSome?_eq_some hFound
  have hShortest : x.shortest = d := by
    rw [shortest, if_neg (mt isZero_iff.1 hNotZero)]
    dsimp only
    rw [hFound]
    rfl
  rw [hShortest]
  exact (rounds_iff hNotZero).1 (neighbour?_rounds hNeighbour)

end Binary64

end ResourceSymbols.Number
