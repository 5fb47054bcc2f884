import Mathlib.Data.List.Basic
import ResourceSymbols.Proofs.PrintedDocuments

/-!
# Texts and numbers that are read as they were written

The reader undoes what the printer did with the characters of a text.  An integer is read
from its digits up to what cannot go on with a number.

## Main results

* `textTail_written` — a text is read up to its closing quote.
* `number_append` — a number is read in three parts.
* `number_decimal?` — an integer is read as it was written.
-/

namespace ResourceSymbols.Json

namespace Reader

variable {rest : List Char}

/-! ## Texts -/

theorem textTail_letter (start : List Char) {e c : Char} (hOther : e ≠ 'u')
    (hLetter : escaped? e = some c) (tail : List Char) :
    textTail start ('\\' :: e :: tail) = (textTail start tail).map fun r => (c :: r.1, r.2) := by
  conv_lhs => rw [textTail.eq_def]
  split
  case h_6 hSame =>
    cases hSame
    rw [hLetter]
  case h_7 hNotLetter hSame =>
    cases hSame
    exact (hNotLetter e tail rfl rfl).elim
  all_goals simp_all

/-- A character that is written by its number. -/
theorem textTail_unit (start : List Char) {n : Nat} (hControl : n < 0x20) {tail : List Char}
    (hTail : tail ≠ []) :
    textTail start (unitEscape n ++ tail) =
      (textTail start tail).map fun r => (Char.ofNat n :: r.1, r.2) := by
  obtain ⟨x, xs, rfl⟩ := List.exists_cons_of_ne_nil hTail
  have hDigits : ∀ n < 0x20,
      unitEscape n = ['\\', 'u', '0', '0', Text.hexDigit (n / 16), Text.hexDigit n] ∧
        codeUnit? '0' '0' (Text.hexDigit (n / 16)) (Text.hexDigit n) = some n ∧
        unitSpelling n = [Char.ofNat n] := by
    decide
  obtain ⟨hEscape, hUnit, hSpelling⟩ := hDigits n hControl
  have hNotHigh : isHigh n = false := by
    simp only [isHigh, Bool.and_eq_false_iff, decide_eq_false_iff_not]
    omega
  conv_lhs => rw [hEscape, List.cons_append, List.cons_append, List.cons_append,
    List.cons_append, List.cons_append, List.cons_append, List.nil_append, textTail]
  simp only [hUnit, hNotHigh, hSpelling]
  rfl

theorem textTail_plain (start : List Char) {c : Char} (hQuote : c ≠ '"') (hBackslash : c ≠ '\\')
    (hVisible : 0x20 ≤ c.toNat) (tail : List Char) :
    textTail start (c :: tail) = (textTail start tail).map fun r => (c :: r.1, r.2) := by
  conv_lhs => rw [textTail.eq_def]
  split
  case h_7 hSame =>
    cases hSame
    exact if_neg (Nat.not_lt.2 hVisible)
  all_goals simp_all

/-- A text is read as it was written. -/
theorem textTail_written (start : List Char) (cs rest : List Char) :
    textTail start (cs.flatMap (writtenChar fun _ => true) ++ '"' :: rest) = .ok (cs, rest) := by
  induction cs with
  | nil => rw [List.flatMap_nil, List.nil_append, textTail]
  | cons c cs ih =>
      rw [List.flatMap_cons, List.append_assoc]
      rcases writtenChar_cases c with ⟨e, hWritten, hLetter, hOther, -⟩ | ⟨hWritten, hControl⟩ |
        ⟨hWritten, hQuote, hBackslash, hVisible⟩
      · rw [hWritten, List.cons_append, List.cons_append, List.nil_append,
          textTail_letter start hOther hLetter, ih]
        rfl
      · rw [hWritten, textTail_unit start hControl (by simp), ih, Char.ofNat_toNat]
        rfl
      · rw [hWritten, List.cons_append, List.nil_append,
          textTail_plain start hQuote hBackslash hVisible, ih]
        rfl

/-! ## Numbers -/

/-- What may come after a number: nothing, a comma or a new line. -/
def Stops (rest : List Char) : Prop := ∀ c ∈ rest.head?, c = ',' ∨ c = '\n'

theorem Stops.not_digit (hStops : Stops rest) : ∀ c ∈ rest.head?, isDigit c = false := by
  intro c hHead
  rcases hStops c hHead with rfl | rfl <;> decide

theorem takeWhile_digits {ds : List Char} (hDigits : ∀ c ∈ ds, isDigit c)
    (hRest : ∀ c ∈ rest.head?, isDigit c = false) : (ds ++ rest).takeWhile isDigit = ds := by
  rw [List.takeWhile_append_of_pos hDigits]
  cases rest with
  | nil => exact List.append_nil ds
  | cons c cs =>
      have hEnd := hRest c rfl
      rw [List.takeWhile_cons_of_neg (by simp [hEnd]), List.append_nil]

theorem fractionDigits_of_stops (hStops : Stops rest) : fractionDigits rest = ([], rest) := by
  cases rest with
  | nil => rfl
  | cons c cs => rcases hStops c rfl with rfl | rfl <;> rfl

theorem exponentPart_of_stops (hStops : Stops rest) : exponentPart rest = (none, rest) := by
  cases rest with
  | nil => rfl
  | cons c cs => rcases hStops c rfl with rfl | rfl <;> rfl

/-- Whether a minus stands in front, and what comes after it. -/
def signed : List Char → Bool × List Char
  | '-' :: rest => (true, rest)
  | rest => (false, rest)

/-- The digits in front; no digit comes after a zero. -/
def wholeDigits : List Char → List Char
  | '0' :: _ => ['0']
  | rest => rest.takeWhile isDigit

/-- The number of which the sign and the digits in front are read. -/
def numberAfter (limits : Option Limits) (negative : Bool) (whole rest : List Char) :
    Except Fault (Value × List Char) :=
  let fraction := (fractionDigits rest).1
  let exponent := exponentPart (fractionDigits rest).2
  if fraction.isEmpty ∧ exponent.1.isNone then
    if limits.any fun l => decide (l.digits < whole.length) then
      .error (.excess (.digits whole.length))
    else
      let n : Int := Nat.ofDigitChars 10 whole 0
      .ok (.int (if negative then -n else n), exponent.2)
  else
    let digits := Nat.ofDigitChars 10 (whole ++ fraction) 0
    .ok (.real (.ofDecimal negative digits (exponent.1.getD 0 - fraction.length)), exponent.2)

/-- A number is read in three parts: a sign, digits, and what comes after them. -/
theorem number_eq (limits : Option Limits) (cs : List Char) :
    number limits cs =
      if (wholeDigits (signed cs).2).isEmpty then .error (.defect .expectedValue cs)
      else
        numberAfter limits (signed cs).1 (wholeDigits (signed cs).2)
          ((signed cs).2.drop (wholeDigits (signed cs).2).length) := rfl

/-- Digits that are read as an integer or stand before a fraction. -/
structure IsWhole (ds : List Char) : Prop where
  digits : ∀ c ∈ ds, isDigit c
  ne_nil : ds ≠ []
  zero : ds.head? = some '0' → ds = ['0']

theorem wholeDigits_append {ds : List Char} (hWhole : IsWhole ds)
    (hRest : ∀ c ∈ rest.head?, isDigit c = false) : wholeDigits (ds ++ rest) = ds := by
  obtain ⟨d, ds, rfl⟩ := List.exists_cons_of_ne_nil hWhole.ne_nil
  rw [List.cons_append, wholeDigits.eq_def]
  split
  · rename_i hHead
    obtain ⟨rfl, -⟩ := List.cons.inj hHead
    exact (hWhole.zero rfl).symm
  · rw [← List.cons_append]
    exact takeWhile_digits hWhole.digits hRest

theorem signed_append {ds : List Char} (hWhole : IsWhole ds) (rest : List Char) :
    signed (ds ++ rest) = (false, ds ++ rest) := by
  obtain ⟨d, ds, rfl⟩ := List.exists_cons_of_ne_nil hWhole.ne_nil
  rw [List.cons_append, signed.eq_def]
  split
  · rename_i hHead
    obtain ⟨rfl, -⟩ := List.cons.inj hHead
    exact absurd (hWhole.digits '-' List.mem_cons_self) (by decide)
  · rfl

/-- A number is read from its digits on. -/
theorem number_append {limits : Option Limits} {ds : List Char} (hWhole : IsWhole ds)
    (hRest : ∀ c ∈ rest.head?, isDigit c = false) (negative : Bool) :
    number limits ((if negative then ['-'] else []) ++ (ds ++ rest)) =
      numberAfter limits negative ds rest := by
  have hSigned : signed ((if negative then ['-'] else []) ++ (ds ++ rest)) =
      (negative, ds ++ rest) := by
    cases negative with
    | true => rfl
    | false => exact signed_append hWhole rest
  have hNotEmpty : ¬ ds.isEmpty = true := by simpa using hWhole.ne_nil
  rw [number_eq, hSigned, wholeDigits_append hWhole hRest, if_neg hNotEmpty, List.drop_left]

/-- Digits alone are read as an integer. -/
theorem numberAfter_of_stops {limits : Limits} {ds : List Char}
    (hLength : ds.length ≤ limits.digits) (hStops : Stops rest) (negative : Bool) :
    numberAfter (some limits) negative ds rest =
      .ok (.int (if negative then -Nat.ofDigitChars 10 ds 0 else Nat.ofDigitChars 10 ds 0),
        rest) := by
  unfold numberAfter
  rw [fractionDigits_of_stops hStops, exponentPart_of_stops hStops]
  have hFew : (some limits).any (fun l => decide (l.digits < ds.length)) = false := by
    simpa using hLength
  rw [hFew]
  rfl

theorem isDigit_of_isDigit {c : Char} (hDigit : c.isDigit) : isDigit c := by
  simpa [Char.isDigit, isDigit, Char.le_def] using hDigit

theorem isWhole_toDigits (n : Nat) : IsWhole (Nat.toDigits 10 n) where
  digits _ hMem := isDigit_of_isDigit (Nat.isDigit_of_mem_toDigits (by decide) (by decide) hMem)
  ne_nil := Nat.toDigits_ne_nil
  zero := by
    induction n using Nat.strongRecOn with
    | ind n ih =>
        intro hHead
        by_cases hSmall : n < 10
        · rw [Nat.toDigits_eq_if (by decide), if_pos hSmall] at hHead ⊢
          rw [Option.some.inj hHead]
        · have hSplit : Nat.toDigits 10 n = Nat.toDigits 10 (n / 10) ++ [(n % 10).digitChar] :=
            Nat.toDigits_of_base_le (by decide) (Nat.not_lt.1 hSmall)
          -- The quotient would be written with a zero in front, and is not zero.
          rw [hSplit, List.head?_append_of_ne_nil _ Nat.toDigits_ne_nil] at hHead
          have hQuotient := ih (n / 10) (by omega) hHead
          have hValue : Nat.ofDigitChars 10 (Nat.toDigits 10 (n / 10)) 0 = 0 := by
            rw [hQuotient]
            rfl
          rw [Nat.ofDigitChars_ten_toDigits] at hValue
          omega

/-- An integer is read as it was written. -/
theorem number_decimal? {n : Int} {text : String} (hText : Number.decimal? n = some text)
    (hStops : Stops rest) :
    number (some documentLimits) (text.toList ++ rest) = .ok (.int n, rest) := by
  obtain ⟨hList, hLength⟩ := Number.toList_of_decimal? hText
  have hValue : (if decide (n < 0) then -(n.natAbs : Int) else n.natAbs) = n := by
    by_cases hSign : n < 0
    · rw [decide_eq_true hSign, if_pos rfl]
      omega
    · rw [decide_eq_false hSign, if_neg Bool.false_ne_true]
      omega
  rw [hList, List.append_assoc, number_append (isWhole_toDigits _) hStops.not_digit,
    numberAfter_of_stops hLength hStops, Nat.ofDigitChars_ten_toDigits, hValue]

end Reader

end ResourceSymbols.Json
