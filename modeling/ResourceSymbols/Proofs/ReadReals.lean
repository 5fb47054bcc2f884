import ResourceSymbols.Proofs.Reading
import ResourceSymbols.Proofs.ShortestDecimal

/-!
# Reals that are read as they were written

A real is laid out with a point, with zeros after the point, or with an exponent.  Each layout
shows the digits of its shortest decimal without the zeros at their end, and the reader takes a
decimal of the same value from it.  The real is the nearest one to that.

## Main results

* `value_shown` — the value of a decimal from the digits that are shown.
* `readsReal_layout` — a decimal other than zero is read from its layout.
* `number_text` — a finite real is read as it was written.
-/

namespace ResourceSymbols

namespace Number

open Json.Reader (IsWhole isDigit isWhole_toDigits)

/-! ## The digits that are shown -/

/-- Only zeros are dropped. -/
theorem exists_dropFinalZeros (cs : List Char) :
    ∃ j, cs = dropFinalZeros cs ++ List.replicate j '0' := by
  refine ⟨(cs.reverse.takeWhile (· = '0')).length, ?_⟩
  have hZeros : cs.reverse.takeWhile (· = '0') =
      List.replicate (cs.reverse.takeWhile (· = '0')).length '0' := by
    refine List.eq_replicate_iff.2 ⟨rfl, fun c hMem => ?_⟩
    simpa using List.all_eq_true.1 List.all_takeWhile c hMem
  calc cs = (cs.reverse.takeWhile (· = '0') ++ cs.reverse.dropWhile (· = '0')).reverse := by
        rw [List.takeWhile_append_dropWhile, List.reverse_reverse]
    _ = dropFinalZeros cs ++ (cs.reverse.takeWhile (· = '0')).reverse := by
        rw [List.reverse_append]
        rfl
    _ = dropFinalZeros cs ++ List.replicate _ '0' := by
        conv_lhs => rw [hZeros, List.reverse_replicate]

/-- At least one digit stands on each side of a point. -/
def orZero : List Char → List Char
  | [] => ['0']
  | ds => ds

/-- Digits with a point after the first one, if more than one stand there. -/
def pointed : List Char → List Char
  | d :: [] => [d]
  | d :: ds => d :: '.' :: ds
  | [] => []

namespace Decimal

/-- The digits that are shown. -/
def shown (d : Decimal) : List Char := orZero (dropFinalZeros (Nat.toDigits 10 d.digits))

/-- The exponent of the first digit. -/
def lead (d : Decimal) : Int :=
  if d.digits = 0 then 0 else (Nat.toDigits 10 d.digits).length - 1 + d.exponent

/-- The digits before the point, where the decimal is laid out without an exponent. -/
def whole (d : Decimal) : List Char :=
  d.shown.take (d.lead.toNat + 1) ++ List.replicate (d.lead.toNat + 1 - d.shown.length) '0'

/-- The digits after the point. -/
def part (d : Decimal) : List Char := orZero (d.shown.drop (d.lead.toNat + 1))

theorem layout_eq (d : Decimal) :
    d.layout =
      if 0 ≤ d.lead ∧ d.lead < 16 then
        String.ofList (d.whole ++ '.' :: d.part)
      else if -4 ≤ d.lead ∧ d.lead < 0 then
        String.ofList ('0' :: '.' :: List.replicate ((-d.lead).toNat - 1) '0' ++ d.shown)
      else
        String.ofList (pointed d.shown ++ 'e' :: (if d.lead < 0 then '-' else '+') ::
          List.replicate (2 - (Nat.toDigits 10 d.lead.natAbs).length) '0' ++
            Nat.toDigits 10 d.lead.natAbs) := rfl

variable {d : Decimal}

/-- The digits are those that are shown and zeros. -/
theorem exists_shown (hNotZero : d.digits ≠ 0) :
    ∃ j, Nat.toDigits 10 d.digits = d.shown ++ List.replicate j '0' := by
  obtain ⟨j, hDigits⟩ := exists_dropFinalZeros (Nat.toDigits 10 d.digits)
  refine ⟨j, ?_⟩
  unfold shown
  cases hDrop : dropFinalZeros (Nat.toDigits 10 d.digits) with
  | nil =>
      have hValue : Nat.ofDigitChars 10 (Nat.toDigits 10 d.digits) 0 = d.digits :=
        Nat.ofDigitChars_ten_toDigits
      rw [hDigits, hDrop, List.nil_append, Nat.ofDigitChars_replicate_zero] at hValue
      exact absurd hValue.symm hNotZero
  | cons c cs => rwa [hDrop] at hDigits

theorem isWhole_shown (hNotZero : d.digits ≠ 0) : IsWhole d.shown := by
  obtain ⟨j, hDigits⟩ := exists_shown hNotZero
  have hWhole := isWhole_toDigits d.digits
  have hNotEmpty : d.shown ≠ [] := by
    unfold shown
    cases dropFinalZeros (Nat.toDigits 10 d.digits) with
    | nil => exact List.cons_ne_nil _ _
    | cons => exact List.cons_ne_nil _ _
  rw [hDigits] at hWhole
  refine ⟨fun c hMem => hWhole.digits c (List.mem_append_left _ hMem), hNotEmpty, fun hHead => ?_⟩
  have hAll := hWhole.zero (by rwa [List.head?_append_of_ne_nil _ hNotEmpty])
  obtain ⟨c, cs, hShown⟩ := List.exists_cons_of_ne_nil hNotEmpty
  rw [hShown] at hAll ⊢
  simp_all

/-- A number other than zero has no zero in front. -/
theorem head?_shown (hNotZero : d.digits ≠ 0) : d.shown.head? ≠ some '0' := by
  intro hHead
  obtain ⟨j, hDigits⟩ := exists_shown hNotZero
  have hValue : Nat.ofDigitChars 10 (Nat.toDigits 10 d.digits) 0 = d.digits :=
    Nat.ofDigitChars_ten_toDigits
  rw [hDigits, (isWhole_shown hNotZero).zero hHead, Nat.ofDigitChars_append,
    Nat.ofDigitChars_replicate_zero] at hValue
  exact hNotZero hValue.symm

/-- The value of the decimal from what is shown. -/
theorem value_shown (hNotZero : d.digits ≠ 0) :
    (d.digits * 10 ^ d.exponent : Rat) =
      Nat.ofDigitChars 10 d.shown 0 * 10 ^ (d.lead + 1 - d.shown.length) := by
  obtain ⟨j, hDigits⟩ := exists_shown hNotZero
  have hValue : Nat.ofDigitChars 10 (Nat.toDigits 10 d.digits) 0 = d.digits :=
    Nat.ofDigitChars_ten_toDigits
  have hLead : d.lead + 1 - d.shown.length = j + d.exponent := by
    rw [lead, if_neg hNotZero, hDigits, List.length_append, List.length_replicate]
    omega
  rw [hDigits, Nat.ofDigitChars_append, Nat.ofDigitChars_replicate_zero] at hValue
  rw [hLead, zpow_add₀ (by norm_num), zpow_natCast, ← hValue]
  push_cast
  ring

theorem part_ne_nil (d : Decimal) : d.part ≠ [] := by
  unfold part
  cases d.shown.drop (d.lead.toNat + 1) <;> exact List.cons_ne_nil _ _

/-- The value of the decimal from the digits around its point. -/
theorem value_point (hNotZero : d.digits ≠ 0) (hLead : 0 ≤ d.lead) :
    (d.digits * 10 ^ d.exponent : Rat) =
      Nat.ofDigitChars 10 (d.whole ++ d.part) 0 * 10 ^ (-(d.part.length : Int)) := by
  rw [value_shown hNotZero, whole]
  rcases Nat.lt_or_ge (d.lead.toNat + 1) d.shown.length with hLong | hShort
  · have hNone : d.lead.toNat + 1 - d.shown.length = 0 := by omega
    have hSome : d.part = d.shown.drop (d.lead.toNat + 1) := by
      obtain ⟨c, cs, hList⟩ := List.exists_cons_of_ne_nil
        (mt List.drop_eq_nil_iff.1 (Nat.not_le.2 hLong))
      rw [part, hList]
      rfl
    rw [hSome, hNone, List.replicate_zero, List.append_nil, List.take_append_drop,
      List.length_drop]
    congr 2
    omega
  · -- All digits stand before the point, so a zero comes after it.
    have hZero : d.part = ['0'] := by
      rw [part, List.drop_of_length_le hShort]
      rfl
    have hPower : d.lead + 1 - d.shown.length = (d.lead.toNat + 1 - d.shown.length : Nat) := by
      omega
    rw [hZero, hPower, zpow_natCast, List.take_of_length_le hShort, List.append_assoc,
      Nat.ofDigitChars_append, Nat.ofDigitChars_append, Nat.ofDigitChars_replicate_zero]
    simp only [Nat.ofDigitChars_cons, Nat.ofDigitChars_nil, List.length_singleton]
    push_cast
    rw [zpow_neg_one]
    ring

end Decimal

end Number

namespace Json.Reader

open Number (Binary64 Decimal)

variable {rest : List Char}

/-! ## Reals with a point or an exponent -/

theorem not_digit_cons {c : Char} (hOther : isDigit c = false) (cs : List Char) :
    ∀ x ∈ (c :: cs).head?, isDigit x = false := by
  rintro x ⟨⟩
  exact hOther

theorem dropWhile_digits {ds : List Char} (hDigits : ∀ c ∈ ds, isDigit c)
    (hRest : ∀ c ∈ rest.head?, isDigit c = false) : (ds ++ rest).dropWhile isDigit = rest := by
  have hSplit : (ds ++ rest).takeWhile isDigit ++ (ds ++ rest).dropWhile isDigit = ds ++ rest :=
    List.takeWhile_append_dropWhile
  rw [takeWhile_digits hDigits hRest] at hSplit
  exact List.append_cancel_left hSplit

theorem fractionDigits_append {ds : List Char} (hDigits : ∀ c ∈ ds, isDigit c)
    (hNotEmpty : ds ≠ []) (hRest : ∀ c ∈ rest.head?, isDigit c = false) :
    fractionDigits ('.' :: (ds ++ rest)) = (ds, rest) := by
  rw [fractionDigits, takeWhile_digits hDigits hRest, dropWhile_digits hDigits hRest]
  cases ds with
  | nil => exact absurd rfl hNotEmpty
  | cons c cs => rfl

/-- The exponent with the given digits. -/
def exponentOf (negative : Bool) (ds : List Char) : Int :=
  if negative then -Nat.ofDigitChars 10 ds 0 else Nat.ofDigitChars 10 ds 0

theorem exponentPart_append {ds : List Char} (hDigits : ∀ c ∈ ds, isDigit c)
    (hNotEmpty : ds ≠ []) (hRest : ∀ c ∈ rest.head?, isDigit c = false) (negative : Bool) :
    exponentPart ('e' :: (if negative then '-' else '+') :: (ds ++ rest)) =
      (some (exponentOf negative ds), rest) := by
  have hTake := takeWhile_digits hDigits hRest
  have hDrop := dropWhile_digits hDigits hRest
  obtain ⟨c, cs, rfl⟩ := List.exists_cons_of_ne_nil hNotEmpty
  cases negative with
  | true =>
      simp only [exponentPart, true_or, if_true, hTake, hDrop]
      rfl
  | false =>
      simp only [exponentPart, true_or, if_true, Bool.false_eq_true, if_false, hTake, hDrop]
      rfl

theorem isWhole_singleton {c : Char} (hDigit : isDigit c) : IsWhole [c] where
  digits := List.forall_mem_singleton.2 hDigit
  ne_nil := List.cons_ne_nil c []
  zero hHead := by rw [Option.some.inj hHead]

/-- A number with a fraction or an exponent is read as a real. -/
theorem numberAfter_real {limits : Option Limits} {whole fraction cs more : List Char}
    {exponent : Option Int} (hFraction : fractionDigits cs = (fraction, more))
    (hExponent : exponentPart more = (exponent, rest)) (hReal : fraction ≠ [] ∨ exponent.isSome)
    (negative : Bool) :
    numberAfter limits negative whole cs =
      .ok (.real (.ofDecimal negative (Nat.ofDigitChars 10 (whole ++ fraction) 0)
        (exponent.getD 0 - fraction.length)), rest) := by
  unfold numberAfter
  rw [hFraction]
  dsimp only
  rw [hExponent]
  refine if_neg ?_
  rw [List.isEmpty_iff, Option.isNone_iff_eq_none, ← Option.not_isSome_iff_eq_none]
  tauto

/-- The characters are read as a real of a decimal with the value, whatever its sign is. -/
def ReadsReal (cs : List Char) (v : Rat) : Prop :=
  ∀ (limits : Option Limits) (negative : Bool) (rest : List Char), Stops rest →
    ∃ (n : Nat) (e : Int), (n * 10 ^ e : Rat) = v ∧
      number limits ((if negative then ['-'] else []) ++ (cs ++ rest)) =
        .ok (.real (.ofDecimal negative n e), rest)

variable {whole ds : List Char}

theorem readsReal_fraction (hWhole : IsWhole whole) (hDigits : ∀ c ∈ ds, isDigit c)
    (hNotEmpty : ds ≠ []) :
    ReadsReal (whole ++ '.' :: ds)
      (Nat.ofDigitChars 10 (whole ++ ds) 0 * 10 ^ (-(ds.length : Int))) := by
  intro limits negative rest hStops
  refine ⟨_, _, rfl, ?_⟩
  rw [List.append_assoc, List.cons_append, number_append hWhole (not_digit_cons rfl _),
    numberAfter_real (fractionDigits_append hDigits hNotEmpty hStops.not_digit)
      (exponentPart_of_stops hStops) (.inl hNotEmpty), Option.getD_none, Int.zero_sub]

theorem readsReal_exponent {c : Char} {exponent : List Char} (hFirst : isDigit c)
    (hDigits : ∀ c ∈ ds, isDigit c) (hExponent : ∀ c ∈ exponent, isDigit c)
    (hNotEmpty : exponent ≠ []) (lower : Bool) :
    ReadsReal (Number.pointed (c :: ds) ++ 'e' :: (if lower then '-' else '+') :: exponent)
      (Nat.ofDigitChars 10 (c :: ds) 0 * 10 ^ (exponentOf lower exponent - ds.length)) := by
  intro limits negative rest hStops
  refine ⟨_, _, rfl, ?_⟩
  have hWhole := isWhole_singleton hFirst
  have hPower := exponentPart_append hExponent hNotEmpty hStops.not_digit lower
  cases ds with
  | nil =>
      have hList : Number.pointed [c] ++ 'e' :: (if lower then '-' else '+') :: exponent ++ rest =
          [c] ++ ('e' :: (if lower then '-' else '+') :: (exponent ++ rest)) := by
        simp [Number.pointed]
      have hNoPoint : fractionDigits ('e' :: (if lower then '-' else '+') :: (exponent ++ rest)) =
          ([], 'e' :: (if lower then '-' else '+') :: (exponent ++ rest)) := rfl
      rw [hList, number_append hWhole (not_digit_cons rfl _),
        numberAfter_real hNoPoint hPower (.inr rfl)]
      rfl
  | cons d ds =>
      have hList : Number.pointed (c :: d :: ds) ++ 'e' :: (if lower then '-' else '+') ::
            exponent ++ rest =
          [c] ++ ('.' :: (d :: ds ++ 'e' :: (if lower then '-' else '+') ::
            (exponent ++ rest))) := by
        simp [Number.pointed]
      have hFraction := fractionDigits_append hDigits (List.cons_ne_nil d ds)
        (not_digit_cons (c := 'e') rfl ((if lower then '-' else '+') :: (exponent ++ rest)))
      rw [hList, number_append hWhole (not_digit_cons rfl _),
        numberAfter_real hFraction hPower (.inr rfl)]
      rfl

/-! ## Layouts that are read -/

theorem forall_isDigit_replicate (n : Nat) : ∀ c ∈ List.replicate n '0', isDigit c := by
  intro c hMem
  rw [List.eq_of_mem_replicate hMem]
  rfl

theorem forall_isDigit_append {cs ds : List Char} (hFront : ∀ c ∈ cs, isDigit c)
    (hEnd : ∀ c ∈ ds, isDigit c) : ∀ c ∈ cs ++ ds, isDigit c := by
  intro c hMem
  exact (List.mem_append.1 hMem).elim (hFront c) (hEnd c)

/-- The digits of an exponent, at least two. -/
def exponentDigits (k : Int) : List Char :=
  List.replicate (2 - (Nat.toDigits 10 k.natAbs).length) '0' ++ Nat.toDigits 10 k.natAbs

theorem isDigit_of_mem_exponentDigits (k : Int) : ∀ c ∈ exponentDigits k, isDigit c :=
  forall_isDigit_append (forall_isDigit_replicate _) (isWhole_toDigits k.natAbs).digits

theorem exponentDigits_ne_nil (k : Int) : exponentDigits k ≠ [] :=
  List.append_ne_nil_of_right_ne_nil _ Nat.toDigits_ne_nil

theorem exponentOf_exponentDigits (k : Int) :
    exponentOf (decide (k < 0)) (exponentDigits k) = k := by
  rw [exponentOf, exponentDigits, Nat.ofDigitChars_append, Nat.ofDigitChars_replicate_zero,
    Nat.mul_zero, Nat.ofDigitChars_ten_toDigits]
  by_cases hSign : k < 0
  · rw [decide_eq_true hSign, if_pos rfl]
    omega
  · rw [decide_eq_false hSign, if_neg Bool.false_ne_true]
    omega

section

variable {d : Decimal} (hNotZero : d.digits ≠ 0)

include hNotZero

theorem isWhole_whole : IsWhole d.whole := by
  have hHead := Decimal.head?_shown hNotZero
  have hDigits := (Decimal.isWhole_shown hNotZero).digits
  obtain ⟨c, cs, hList⟩ := List.exists_cons_of_ne_nil (Decimal.isWhole_shown hNotZero).ne_nil
  unfold Decimal.whole
  rw [hList] at hHead hDigits ⊢
  exact
    { digits := forall_isDigit_append (fun c hMem => hDigits c (List.mem_of_mem_take hMem))
        (forall_isDigit_replicate _)
      ne_nil := by simp
      zero := fun hZero => absurd hZero (by simpa using hHead) }

theorem isDigit_of_mem_part : ∀ c ∈ d.part, isDigit c := by
  unfold Decimal.part
  cases hDrop : d.shown.drop (d.lead.toNat + 1) with
  | nil => exact List.forall_mem_singleton.2 rfl
  | cons c cs =>
      intro c hMem
      have hHere : c ∈ d.shown.drop (d.lead.toNat + 1) := by
        rw [hDrop]
        exact hMem
      exact (Decimal.isWhole_shown hNotZero).digits c (List.mem_of_mem_drop hHere)

theorem readsReal_point (hLead : 0 ≤ d.lead) :
    ReadsReal (d.whole ++ '.' :: d.part) (d.digits * 10 ^ d.exponent) := by
  rw [Decimal.value_point hNotZero hLead]
  exact readsReal_fraction (isWhole_whole hNotZero) (isDigit_of_mem_part hNotZero) d.part_ne_nil

theorem readsReal_small (hLead : d.lead < 0) :
    ReadsReal ('0' :: '.' :: List.replicate ((-d.lead).toNat - 1) '0' ++ d.shown)
      (d.digits * 10 ^ d.exponent) := by
  have hShown := Decimal.isWhole_shown hNotZero
  have hWhole : IsWhole ['0'] := isWhole_singleton rfl
  have hDigits := forall_isDigit_append (forall_isDigit_replicate ((-d.lead).toNat - 1))
    hShown.digits
  convert readsReal_fraction hWhole hDigits (List.append_ne_nil_of_right_ne_nil _ hShown.ne_nil)
    using 1
  · rfl
  · have hZero : Nat.ofDigitChars 10 ['0'] 0 = 0 := rfl
    rw [Decimal.value_shown hNotZero, Nat.ofDigitChars_append, hZero, Nat.ofDigitChars_append,
      Nat.ofDigitChars_replicate_zero, Nat.mul_zero, List.length_append, List.length_replicate]
    congr 2
    omega

theorem readsReal_power :
    ReadsReal (Number.pointed d.shown ++ 'e' :: (if d.lead < 0 then '-' else '+') ::
      exponentDigits d.lead) (d.digits * 10 ^ d.exponent) := by
  have hShown := Decimal.isWhole_shown hNotZero
  have hValue := Decimal.value_shown hNotZero
  obtain ⟨c, ds, hList⟩ := List.exists_cons_of_ne_nil hShown.ne_nil
  have hDigits := hShown.digits
  rw [hList] at hValue hDigits ⊢
  obtain ⟨hFirst, hRest⟩ := List.forall_mem_cons.1 hDigits
  have hReads := readsReal_exponent hFirst hRest (isDigit_of_mem_exponentDigits d.lead)
    (exponentDigits_ne_nil d.lead) (decide (d.lead < 0))
  rw [exponentOf_exponentDigits] at hReads
  convert hReads using 1
  · simp only [decide_eq_true_iff]
  · rw [hValue, List.length_cons]
    congr 2
    omega

/-- A decimal other than zero is read from its layout. -/
theorem readsReal_layout : ReadsReal d.layout.toList (d.digits * 10 ^ d.exponent) := by
  rw [Decimal.layout_eq]
  split
  · rename_i hPlain
    rw [String.toList_ofList]
    exact readsReal_point hNotZero hPlain.1
  · split
    · rename_i hSmall
      rw [String.toList_ofList]
      exact readsReal_small hNotZero hSmall.2
    · rw [String.toList_ofList, List.append_assoc]
      exact readsReal_power hNotZero

end

theorem toList_text {x : Binary64} (hFinite : x.isFinite = true) :
    (x.text jsonWords).toList =
      (if x.isNegative then ['-'] else []) ++ x.shortest.layout.toList := by
  have hNumber : x.isNaN = false := by
    have hField := Binary64.isFinite_iff.1 hFinite
    refine decide_eq_false fun hOther => ?_
    omega
  unfold Binary64.text
  rw [hNumber, hFinite]
  cases x.isNegative with
  | true => exact String.toList_append
  | false => rfl

/-- A finite real is read as it was written. -/
theorem number_text {x : Binary64} (hFinite : x.isFinite = true) (limits : Option Limits)
    (hStops : Stops rest) :
    number limits ((x.text jsonWords).toList ++ rest) = .ok (.real x, rest) := by
  rw [toList_text hFinite, List.append_assoc]
  by_cases hZero : x.significand = 0
  · have hShortest : x.shortest = ⟨0, 0⟩ := if_pos (Binary64.isZero_iff.2 hZero)
    have hWhole : IsWhole ['0'] := isWhole_singleton rfl
    have hLayout : (Decimal.layout ⟨0, 0⟩).toList = ['0'] ++ '.' :: ['0'] := by decide
    obtain ⟨n, e, hValue, hNumber⟩ := readsReal_fraction hWhole
      (List.forall_mem_singleton.2 rfl) (List.cons_ne_nil '0' []) limits x.isNegative rest hStops
    have hNone : Nat.ofDigitChars 10 (['0'] ++ ['0']) 0 = 0 := rfl
    rw [hNone, Nat.cast_zero, zero_mul, mul_eq_zero,
      or_iff_left (zpow_ne_zero e (by norm_num)), Nat.cast_eq_zero] at hValue
    rw [hShortest, hLayout, hNumber, hValue, Binary64.ofDecimal_zero hZero]
  · have hRounds := Binary64.shortest_rounds hZero
    have hDigits : x.shortest.digits ≠ 0 := by
      intro hNone
      have hPos := hRounds.pos hZero
      rw [hNone] at hPos
      simp at hPos
    obtain ⟨n, e, hValue, hNumber⟩ := readsReal_layout hDigits limits x.isNegative rest hStops
    rw [← hValue] at hRounds
    rw [hNumber, Binary64.ofDecimal_eq hFinite hZero hRounds]

end Json.Reader

end ResourceSymbols
