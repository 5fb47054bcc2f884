import ResourceSymbols.Proofs.Fate
import ResourceSymbols.Proofs.Numeral

/-!
# The order of identifiers

Identifiers are compared part by part, packed ones as numbers, and printed ones as
texts.  All three are one order: the parts lie side by side in the number, and the print
has digits of one width.

## Main results

* `ofDigits_lt_iff` — digits of one width compare as their numbers do.
* `number_eq_or`, `parts_eq_and` — the parts lie side by side.
* `text_lt_iff` — prints compare as the packed identifiers do.
* `packs_in_order` — packing, taking apart, printing and reading, and their order.
-/

namespace ResourceSymbols

namespace Number.Literal

/-! ## Digits of one width -/

theorem foldl_digits (base n : Nat) (ds : List Nat) :
    ds.foldl (fun n d => n * base + d) n = n * base ^ ds.length + ofDigits base ds := by
  induction ds generalizing n with
  | nil => simp [ofDigits]
  | cons d ds ih =>
      have hFirst : ofDigits base (d :: ds) = ds.foldl (fun n d => n * base + d) d := by
        rw [ofDigits, List.foldl_cons, Nat.zero_mul, Nat.zero_add]
      rw [hFirst, List.foldl_cons, ih, ih d, List.length_cons, Nat.pow_succ', Nat.add_mul,
        Nat.mul_assoc, Nat.add_assoc]

/-- The first digit counts as often as the others can count. -/
theorem ofDigits_cons (base d : Nat) (ds : List Nat) :
    ofDigits base (d :: ds) = d * base ^ ds.length + ofDigits base ds := by
  rw [← foldl_digits, ofDigits, List.foldl_cons, Nat.zero_mul, Nat.zero_add]

theorem ofDigits_lt {base : Nat} {ds : List Nat} (hDigits : ∀ d ∈ ds, d < base) :
    ofDigits base ds < base ^ ds.length := by
  induction ds with
  | nil => simp [ofDigits]
  | cons d ds ih =>
      rw [List.forall_mem_cons] at hDigits
      have hRest := ih hDigits.2
      have hFirst : (d + 1) * base ^ ds.length ≤ base * base ^ ds.length :=
        Nat.mul_le_mul_right _ hDigits.1
      rw [Nat.add_mul, Nat.one_mul] at hFirst
      rw [ofDigits_cons, List.length_cons, Nat.pow_succ']
      omega

/-- Digits of one width compare as their numbers do, from the first digit on. -/
theorem ofDigits_lt_iff {base : Nat} {ds es : List Nat} (hLength : ds.length = es.length)
    (hDs : ∀ d ∈ ds, d < base) (hEs : ∀ e ∈ es, e < base) :
    ofDigits base ds < ofDigits base es ↔ ds < es := by
  induction ds generalizing es with
  | nil =>
      obtain rfl := List.length_eq_zero_iff.1 hLength.symm
      simp
  | cons d ds ih =>
      cases es with
      | nil => cases hLength
      | cons e es =>
          rw [List.length_cons, List.length_cons, Nat.succ.injEq] at hLength
          rw [List.forall_mem_cons] at hDs hEs
          have hLeft := ofDigits_lt hDs.2
          have hRight := ofDigits_lt hEs.2
          rw [hLength] at hLeft
          rw [ofDigits_cons, ofDigits_cons, List.cons_lt_cons_iff, ← ih hLength hDs.2 hEs.2,
            hLength]
          -- What comes after the first digit counts less than one of it.
          rcases Nat.lt_trichotomy d e with hLess | rfl | hMore
          · have hStep : (d + 1) * base ^ es.length ≤ e * base ^ es.length :=
              Nat.mul_le_mul_right _ hLess
            rw [Nat.add_mul, Nat.one_mul] at hStep
            omega
          · omega
          · have hStep : (e + 1) * base ^ es.length ≤ d * base ^ es.length :=
              Nat.mul_le_mul_right _ hMore
            rw [Nat.add_mul, Nat.one_mul] at hStep
            omega

/-- The sixteen digits come in the order of their values. -/
theorem digitChar_lt_iff {d e : Nat} (hd : d < 16) (he : e < 16) :
    Nat.digitChar d < Nat.digitChar e ↔ d < e := by
  have hAll : ∀ d < 16, ∀ e < 16, Nat.digitChar d < Nat.digitChar e ↔ d < e := by
    decide +kernel
  exact hAll d hd e he

theorem map_digitChar_lt_iff {ds es : List Nat} (hDs : ∀ d ∈ ds, d < 16)
    (hEs : ∀ e ∈ es, e < 16) :
    ds.map Nat.digitChar < es.map Nat.digitChar ↔ ds < es := by
  induction ds generalizing es with
  | nil => cases es <;> simp
  | cons d ds ih =>
      cases es with
      | nil => simp
      | cons e es =>
          rw [List.forall_mem_cons] at hDs hEs
          have hSame : Nat.digitChar d = Nat.digitChar e ↔ d = e := by
            refine ⟨fun hChar => ?_, fun h => h ▸ rfl⟩
            have hNotLess : ¬ d < e := by
              rw [← digitChar_lt_iff hDs.1 hEs.1, hChar]
              exact Char.lt_irrefl _
            have hNotMore : ¬ e < d := by
              rw [← digitChar_lt_iff hEs.1 hDs.1, hChar]
              exact Char.lt_irrefl _
            omega
          rw [List.map_cons, List.map_cons, List.cons_lt_cons_iff, List.cons_lt_cons_iff,
            digitChar_lt_iff hDs.1 hEs.1, hSame, ih hDs.2 hEs.2]

/-- Whether `c` is a hexadecimal digit, and none of the capital letters. -/
def isLowerDigit (c : Char) : Bool :=
  (decide ('0' ≤ c) && decide (c ≤ '9')) || (decide ('a' ≤ c) && decide (c ≤ 'f'))

theorem isLowerDigit_digitChar {d : Nat} (hd : d < 16) :
    isLowerDigit (Nat.digitChar d) = true := by
  have hAll : ∀ d < 16, isLowerDigit (Nat.digitChar d) = true := by decide +kernel
  exact hAll d hd

/-- The digits give back their values. -/
theorem mapM_digitValue? {ds : List Nat} (hDigits : ∀ d ∈ ds, d < 16) :
    (ds.map Nat.digitChar).mapM digitValue? = some ds := by
  induction ds with
  | nil => rfl
  | cons d ds ih =>
      rw [List.forall_mem_cons] at hDigits
      obtain ⟨-, -, -, hValue⟩ := digitChar_spec hDigits.1
      rw [List.map_cons, List.mapM_cons, hValue, ih hDigits.2]
      rfl

end Number.Literal

namespace Resource.Id

open Number.Literal (digitValue? int? isLowerDigit ofDigits)

/-! ## Parts side by side -/

/-- The packed form of an identifier holds its parts side by side. -/
theorem number_eq_or (id : Id) :
    id.number = (id.package.val <<< 24) ||| (id.type.val <<< 16) ||| id.entry.val := by
  have hType := id.type.isLt
  have hEntry : id.entry.val < 2 ^ 16 := id.entry.isLt
  have hLow : id.type.val <<< 16 + id.entry.val < 2 ^ 24 := by
    rw [Nat.shiftLeft_eq]
    omega
  rw [Nat.or_assoc, ← Nat.shiftLeft_add_eq_or_of_lt hEntry,
    ← Nat.shiftLeft_add_eq_or_of_lt hLow, number, Nat.shiftLeft_eq, Nat.shiftLeft_eq,
    Nat.add_assoc]

/-- The parts of an identifier are cut out of its packed form. -/
theorem parts_eq_and (id : Id) :
    id.package.val = (id.number >>> 24) &&& 0xFF ∧ id.type.val = (id.number >>> 16) &&& 0xFF ∧
      id.entry.val = id.number &&& 0xFFFF := by
  have hPackage := id.package.isLt
  have hType := id.type.isLt
  have hEntry := id.entry.isLt
  have hByte : ∀ n, n &&& 0xFF = n % 2 ^ 8 := fun n => Nat.and_two_pow_sub_one_eq_mod n 8
  have hWord : ∀ n, n &&& 0xFFFF = n % 2 ^ 16 := fun n => Nat.and_two_pow_sub_one_eq_mod n 16
  rw [hByte, hByte, hWord, Nat.shiftRight_eq_div_pow, Nat.shiftRight_eq_div_pow, number]
  omega

/-! ## Ranges -/

theorem exists_ofNumber_iff {n : Int} :
    (∃ id, ofNumber n = .ok id) ↔ 0 ≤ n ∧ n ≤ 0xFFFFFFFF := by
  constructor
  · rintro ⟨id, hId⟩
    have hNumber := number_of_ofNumber hId
    have := id.number_lt
    omega
  · intro hRange
    rw [ofNumber, dif_pos ⟨hRange.1, by omega⟩]
    exact ⟨_, rfl⟩

theorem exists_ofParts_iff {package type entry : Int} :
    (∃ id, ofParts package type entry = .ok id) ↔
      (0 ≤ package ∧ package ≤ 0xFF) ∧ (0 ≤ type ∧ type ≤ 0xFF) ∧
        0 ≤ entry ∧ entry ≤ 0xFFFF := by
  constructor
  · rintro ⟨id, hId⟩
    obtain ⟨rfl, rfl, rfl⟩ := RClass.ofParts_eq_ok_iff.1 hId
    have := id.package.isLt
    have := id.type.isLt
    have := id.entry.isLt
    omega
  · rintro ⟨hPackage, hType, hEntry⟩
    exact RClass.exists_ofParts ⟨hPackage.1, by omega⟩ ⟨hType.1, by omega⟩
      ⟨hEntry.1, by omega⟩

/-! ## Prints -/

/-- The print of an identifier is a mark and eight digits, and these spell its number. -/
theorem exists_digits (id : Id) :
    ∃ ds : List Nat, id.text.toList = '0' :: 'x' :: ds.map Nat.digitChar ∧ ds.length = 8 ∧
      (∀ d ∈ ds, d < 16) ∧ ofDigits 16 ds = id.number := by
  obtain ⟨ds, hText, hLength, hDigits, hValue⟩ := Number.Literal.exists_hexDigits 8 id.number
  refine ⟨ds, ?_, hLength, hDigits, ?_⟩
  · rw [text, hText, String.toList_append, String.toList_ofList (l := ds.map Nat.digitChar)]
    rfl
  · rw [hValue]
    exact Nat.mod_eq_of_lt id.number_lt

/-- Prints compare as the packed identifiers do. -/
theorem text_lt_iff {a b : Id} : a.text < b.text ↔ a.number < b.number := by
  obtain ⟨ds, hText, hLength, hDigits, hNumber⟩ := exists_digits a
  obtain ⟨es, hText', hLength', hDigits', hNumber'⟩ := exists_digits b
  have hWidth : ds.length = es.length := hLength.trans hLength'.symm
  show a.text.toList < b.text.toList ↔ _
  rw [hText, hText', ← hNumber, ← hNumber',
    Number.Literal.ofDigits_lt_iff hWidth hDigits hDigits',
    ← Number.Literal.map_digitChar_lt_iff hDigits hDigits']
  -- The marks are the same, so the digits decide.
  simp only [List.cons_lt_cons_iff, Char.lt_irrefl, true_and, false_or]

/-- The print of an identifier as it stands, and as it is read. -/
theorem exists_print (id : Id) :
    ∃ digits : List Char, id.text.toList = '0' :: 'x' :: digits ∧ digits.length = 8 ∧
      digits.all isLowerDigit = true ∧
      (digits.mapM digitValue?).map (ofDigits 16) = some id.number := by
  obtain ⟨ds, hText, hLength, hDigits, hNumber⟩ := exists_digits id
  refine ⟨ds.map Nat.digitChar, hText, ?_, ?_, ?_⟩
  · rw [List.length_map, hLength]
  · rw [List.all_eq_true, List.forall_mem_map]
    exact fun d hd => Number.Literal.isLowerDigit_digitChar (hDigits d hd)
  · rw [Number.Literal.mapM_digitValue? hDigits, Option.map_some, hNumber]

/-- A number of 32 bits, and no other, is taken apart into the identifier that it packs.
Parts in their ranges, and no others, make the identifier that has them.  Identifiers,
their packed forms and their prints have one order, and a print is a mark and eight digits
that spell the packed form. -/
theorem packs_in_order :
    (∀ n : Int, (∃ id, ofNumber n = .ok id) ↔ 0 ≤ n ∧ n ≤ 0xFFFFFFFF) ∧
    (∀ (n : Int) (id : Id), ofNumber n = .ok id ↔ (id.number : Int) = n) ∧
    (∀ package type entry : Int, (∃ id, ofParts package type entry = .ok id) ↔
      (0 ≤ package ∧ package ≤ 0xFF) ∧ (0 ≤ type ∧ type ≤ 0xFF) ∧
        0 ≤ entry ∧ entry ≤ 0xFFFF) ∧
    (∀ (package type entry : Int) (id : Id), ofParts package type entry = .ok id ↔
      (id.package.val : Int) = package ∧ (id.type.val : Int) = type ∧
        (id.entry.val : Int) = entry) ∧
    (∀ a b : Id, (a.before b = true ↔ a.number < b.number) ∧
      (a.text < b.text ↔ a.number < b.number)) ∧
    ∀ id : Id,
      id.number = (id.package.val <<< 24) ||| (id.type.val <<< 16) ||| id.entry.val ∧
      (id.package.val = (id.number >>> 24) &&& 0xFF ∧
        id.type.val = (id.number >>> 16) &&& 0xFF ∧ id.entry.val = id.number &&& 0xFFFF) ∧
      ofNumber id.number = .ok id ∧ int? id.text = some (id.number : Int) ∧
      ∃ digits : List Char, id.text.toList = '0' :: 'x' :: digits ∧ digits.length = 8 ∧
        digits.all isLowerDigit = true ∧
        (digits.mapM digitValue?).map (ofDigits 16) = some id.number := by
  refine ⟨fun n => exists_ofNumber_iff, fun n id => ⟨number_of_ofNumber, ?_⟩,
    fun _ _ _ => exists_ofParts_iff, fun package type entry id => ?_,
    fun a b => ⟨before_iff, text_lt_iff⟩, fun id => ?_⟩
  · rintro rfl
    exact ofNumber_number id
  · rw [RClass.ofParts_eq_ok_iff, eq_comm (a := package), eq_comm (a := type),
      eq_comm (a := entry)]
  · exact ⟨number_eq_or id, parts_eq_and id, ofNumber_number id, Number.Literal.int?_text id,
      exists_print id⟩

end Resource.Id

end ResourceSymbols
