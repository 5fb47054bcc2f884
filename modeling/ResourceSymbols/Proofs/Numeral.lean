import Mathlib.Algebra.Ring.Nat
import ResourceSymbols.Number.Literal
import ResourceSymbols.Resource.Id

/-!
# Printed identifiers

A packed identifier is printed in eight hexadecimal digits.  The print is a
literal of the number, on one line and without blanks.

## Main results

* `digitValues?_digits` — digits read back.
* `int?_unsigned` — what holds no sign is read as a magnitude.
* `int?_text` — the print of an identifier is a literal of its number.
* `not_mem_text` — what is no digit does not stand in the print.
-/

namespace ResourceSymbols.Number.Literal

open Resource (Id)

/-! ## Digits -/

/-- What a literal makes of a digit. -/
theorem digitChar_spec {d : Nat} (hd : d < 16) :
    plainDigit (Nat.digitChar d) = Nat.digitChar d ∧
      isMargin (Nat.digitChar d) = false ∧ Nat.digitChar d ≠ '_' ∧
      digitValue? (Nat.digitChar d) = some d := by
  have hAll : ∀ d < 16, plainDigit (Nat.digitChar d) = Nat.digitChar d ∧
      isMargin (Nat.digitChar d) = false ∧ Nat.digitChar d ≠ '_' ∧
      digitValue? (Nat.digitChar d) = some d := by
    decide +kernel
  exact hAll d hd

/-- Digits read back, where at least one stands if one is wanted. -/
theorem digitValues?_digits {base : Nat} (hBase : base ≤ 16) {ds : List Nat}
    (hDigits : ∀ d ∈ ds, d < base) (wanted : Bool)
    (hWanted : ds = [] → wanted = false) :
    digitValues? base wanted (ds.map Nat.digitChar) = some ds := by
  induction ds generalizing wanted with
  | nil =>
      rw [hWanted rfl]
      rfl
  | cons d ds ih =>
      have hd : d < base := hDigits d List.mem_cons_self
      obtain ⟨-, -, hMark, hValue⟩ := digitChar_spec (Nat.lt_of_lt_of_le hd hBase)
      have hRest := ih (fun d' hd' => hDigits d' (List.mem_cons_of_mem _ hd'))
        false fun _ => rfl
      rw [List.map_cons, digitValues?, if_neg hMark, hValue]
      show (if d < base then _ else none) = some (d :: ds)
      rw [if_pos hd, hRest, Option.map_some]

theorem ofDigits_concat (base : Nat) (ds : List Nat) (d : Nat) :
    ofDigits base (ds ++ [d]) = ofDigits base ds * base + d := by
  rw [ofDigits, List.foldl_append]
  rfl

/-- The last hexadecimal digits of a number are the number, but for what does not
fit. -/
theorem exists_hexDigits (width n : Nat) :
    ∃ ds : List Nat, Text.hexDigits width n = ds.map Nat.digitChar ∧
      ds.length = width ∧ (∀ d ∈ ds, d < 16) ∧
      ofDigits 16 ds = n % 16 ^ width := by
  induction width generalizing n with
  | zero =>
      refine ⟨[], rfl, rfl, by simp, ?_⟩
      rw [Nat.pow_zero, Nat.mod_one]
      rfl
  | succ width ih =>
      obtain ⟨ds, hText, hLength, hDigits, hValue⟩ := ih (n / 16)
      refine ⟨ds ++ [n % 16], ?_, ?_, ?_, ?_⟩
      · rw [Text.hexDigits, hText, List.map_append]
        rfl
      · rw [List.length_append, hLength]
        rfl
      · intro d hd
        rcases List.mem_append.1 hd with hd | hd
        · exact hDigits d hd
        · rw [List.mem_singleton.1 hd]
          exact Nat.mod_lt _ (by decide)
      · rw [ofDigits_concat, hValue, Nat.pow_succ', Nat.mod_mul]
        omega

/-! ## Literals -/

theorem trimBoth_eq_self {α : Type} {p : α → Bool} {xs : List α}
    (hNone : ∀ x ∈ xs, p x = false) : Text.trimBoth p xs = xs := by
  have hDrop : ∀ ys : List α, (∀ y ∈ ys, p y = false) → ys.dropWhile p = ys := by
    intro ys hys
    cases ys with
    | nil => rfl
    | cons y ys => rw [List.dropWhile_cons, hys y List.mem_cons_self]; rfl
  rw [Text.trimBoth, hDrop xs hNone, hDrop xs.reverse (by simpa using hNone),
    List.reverse_reverse]

/-- Whether `c` may stand in a literal behind its sign, and is read as it is. -/
structure IsUnsigned (c : Char) : Prop where
  plain : plainDigit c = c
  inner : isMargin c = false
  not_plus : c ≠ '+'
  not_minus : c ≠ '-'

theorem isUnsigned_digitChar {d : Nat} (hd : d < 16) : IsUnsigned (Nat.digitChar d) := by
  obtain ⟨hPlain, hInner, -, -⟩ := digitChar_spec hd
  have hSigns : ∀ d < 16, Nat.digitChar d ≠ '+' ∧ Nat.digitChar d ≠ '-' := by decide
  exact ⟨hPlain, hInner, (hSigns d hd).1, (hSigns d hd).2⟩

theorem isUnsigned_mark : IsUnsigned 'x' :=
  ⟨by decide +kernel, by decide +kernel, by decide, by decide⟩

/-- What is no sign is read as the magnitude of a number that is not negative. -/
theorem int?_unsigned {s : String} (hChars : ∀ c ∈ s.toList, IsUnsigned c) :
    int? s = (magnitude? s.toList).map Int.ofNat := by
  have hMap : s.toList.map plainDigit = s.toList := by
    rw [List.map_congr_left fun c hc => (hChars c hc).plain, List.map_id']
  rw [int?, hMap, trimBoth_eq_self fun c hc => (hChars c hc).inner]
  split
  · rename_i hText
    rw [hText] at hChars
    exact absurd rfl (hChars _ List.mem_cons_self).not_plus
  · rename_i hText
    rw [hText] at hChars
    exact absurd rfl (hChars _ List.mem_cons_self).not_minus
  · rfl

/-- A mark and digits make a literal. -/
theorem magnitude?_hex {ds : List Nat} (hSome : ds ≠ [])
    (hDigits : ∀ d ∈ ds, d < 16) :
    magnitude? ('0' :: 'x' :: ds.map Nat.digitChar) = some (ofDigits 16 ds) := by
  have hRead := digitValues?_digits (Nat.le_refl 16) hDigits true
    fun hNil => absurd hNil hSome
  cases ds with
  | nil => exact absurd rfl hSome
  | cons d ds =>
      obtain ⟨-, -, hMark, -⟩ := digitChar_spec (hDigits d List.mem_cons_self)
      rw [List.map_cons] at hRead ⊢
      unfold magnitude?
      simp only
      split
      · rename_i hMarked
        exact absurd (List.cons.inj hMarked).1 hMark
      · rw [hRead]
        rfl

/-- The print of an identifier, digit by digit. -/
theorem toList_text (id : Id) :
    ∃ ds : List Nat, id.text.toList = '0' :: 'x' :: ds.map Nat.digitChar ∧
      ds ≠ [] ∧ (∀ d ∈ ds, d < 16) ∧ ofDigits 16 ds = id.number := by
  obtain ⟨ds, hText, hLength, hDigits, hValue⟩ := exists_hexDigits 8 id.number
  refine ⟨ds, ?_, ?_, hDigits, ?_⟩
  · rw [Id.text, hText, String.toList_append,
      String.toList_ofList (l := ds.map Nat.digitChar)]
    rfl
  · rintro rfl
    cases hLength
  · rw [hValue]
    exact Nat.mod_eq_of_lt id.number_lt

/-- What is true of the mark and of every digit is true of all characters of the
print. -/
theorem forall_mem_text {P : Char → Prop} (hZero : P '0') (hMark : P 'x')
    (hDigit : ∀ d < 16, P (Nat.digitChar d)) (id : Id) : ∀ c ∈ id.text.toList, P c := by
  obtain ⟨ds, hText, -, hDigits, -⟩ := toList_text id
  intro c hc
  rw [hText] at hc
  rcases List.mem_cons.1 hc with rfl | hc
  · exact hZero
  · rcases List.mem_cons.1 hc with rfl | hc
    · exact hMark
    · obtain ⟨d, hd, rfl⟩ := List.mem_map.1 hc
      exact hDigit d (hDigits d hd)

/-- A character that is neither the mark nor a digit does not stand in the print. -/
theorem not_mem_text {c : Char} (hZero : '0' ≠ c) (hMark : 'x' ≠ c)
    (hDigit : ∀ d < 16, Nat.digitChar d ≠ c) (id : Id) : c ∉ id.text.toList :=
  fun hMem => forall_mem_text (P := fun d => d ≠ c) hZero hMark hDigit id c hMem rfl

/-- The print of an identifier is a literal of its number. -/
theorem int?_text (id : Id) : int? id.text = some (id.number : Int) := by
  have hChars : ∀ c ∈ id.text.toList, IsUnsigned c :=
    forall_mem_text (isUnsigned_digitChar (d := 0) (by decide)) isUnsigned_mark
      (fun d hd => isUnsigned_digitChar hd) id
  obtain ⟨ds, hText, hSome, hDigits, hValue⟩ := toList_text id
  rw [int?_unsigned hChars, hText, magnitude?_hex hSome hDigits, hValue]
  rfl

end ResourceSymbols.Number.Literal
