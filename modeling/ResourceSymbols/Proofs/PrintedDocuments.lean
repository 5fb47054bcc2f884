import ResourceSymbols.Json.Printer
import ResourceSymbols.Json.Reader
import ResourceSymbols.Text.Cut

/-!
# Documents that are written

A document is written over several lines.  Its texts escape what ends a line, and nothing
else in it is a carriage return, so a file that holds it is read as it was written.

## Main results

* `writtenChar_cases` — how a character of a text is written.
* `return_not_mem_indented?` — a document is written without a carriage return.
-/

namespace ResourceSymbols

namespace Text

/-- Whether the character is the space or a visible one of ASCII. -/
def isVisible (c : Char) : Bool := decide (0x20 ≤ c.toNat) && decide (c.toNat ≤ 0x7E)

/-- A character that documents have in their texts alone, if at all: a control other than the
end of a line, or one beyond ASCII. -/
def Foreign (c : Char) : Prop := isVisible c = false ∧ c ≠ '\n'

variable {c d : Char}

theorem Foreign.ne (hForeign : Foreign c) (hVisible : isVisible d = true) : c ≠ d := by
  rintro rfl
  exact absurd (hForeign.1.symm.trans hVisible) Bool.false_ne_true

theorem Foreign.not_mem {cs : List Char} (hForeign : Foreign c)
    (hVisible : cs.all isVisible = true) : c ∉ cs :=
  fun hMem => hForeign.ne (List.all_eq_true.1 hVisible c hMem) rfl

theorem foreign_return : Foreign '\r' := ⟨by decide, by decide⟩

theorem foreign_mark : Foreign mark := ⟨by decide, by decide⟩

end Text

namespace Number

open Text (Foreign)

/-! ## Numerals of digits and signs -/

section

variable {c : Char} (hForeign : Foreign c)

include hForeign

theorem not_mem_toDigits (n : Nat) : c ∉ Nat.toDigits 10 n := by
  intro hMem
  have hDigit := Nat.isDigit_of_mem_toDigits (by decide) (by decide) hMem
  simp only [Char.isDigit, Bool.and_eq_true, decide_eq_true_eq] at hDigit
  have hVisible : Text.isVisible c = true := Bool.and_eq_true_iff.2
    ⟨decide_eq_true (Nat.le_trans (by decide) hDigit.1),
      decide_eq_true (Nat.le_trans hDigit.2 (by decide))⟩
  exact hForeign.ne hVisible rfl

omit hForeign in
theorem mem_of_mem_dropFinalZeros {cs : List Char} (hMem : c ∈ dropFinalZeros cs) :
    c ∈ cs := by
  rw [dropFinalZeros, List.mem_reverse] at hMem
  exact List.mem_reverse.1 ((List.dropWhile_sublist _).subset hMem)

theorem not_mem_layout (d : Decimal) : c ∉ d.layout.toList := by
  have hKept : c ∉ dropFinalZeros (Nat.toDigits 10 d.digits) := fun hMem =>
    not_mem_toDigits hForeign _ (mem_of_mem_dropFinalZeros hMem)
  unfold Decimal.layout
  dsimp only
  generalize dropFinalZeros (Nat.toDigits 10 d.digits) = kept at hKept ⊢
  generalize (if d.digits = 0 then (0 : Int) else _) = k
  have hExponent := not_mem_toDigits hForeign k.natAbs
  have hSign : c ≠ if k < 0 then '-' else '+' := by split <;> exact hForeign.ne (by decide)
  have hZero := hForeign.ne (d := '0') (by decide)
  have hPoint := hForeign.ne (d := '.') (by decide)
  have hE := hForeign.ne (d := 'e') (by decide)
  cases kept with
  | nil =>
      dsimp only
      split
      · simp [hZero, hPoint]
      · split <;> simp [hExponent, hSign, hZero, hPoint, hE]
  | cons first cs =>
      obtain ⟨hHead, hRest⟩ := not_or.1 ((not_congr List.mem_cons).1 hKept)
      have hTake : ∀ n, c ∉ cs.take n := fun n hMem => hRest (List.mem_of_mem_take hMem)
      have hDrop : c ∉ cs.drop k.toNat := fun hMem => hRest (List.mem_of_mem_drop hMem)
      dsimp only
      split
      · rw [List.drop_succ_cons]
        cases hPart : cs.drop k.toNat with
        | nil => simp [hHead, hTake, hZero, hPoint]
        | cons e es =>
            rw [hPart] at hDrop
            simpa [hHead, hTake, hZero, hPoint] using hDrop
      · split
        · simp [hHead, hRest, hZero, hPoint]
        · cases cs with
          | nil => simp [hHead, hExponent, hSign, hE, hZero]
          | cons e es => simpa [hHead, hExponent, hSign, hPoint, hE, hZero] using hRest

theorem not_mem_text {words : RealWords} (hNaN : c ∉ words.nan.toList)
    (hInfinity : c ∉ words.infinity.toList) (x : Binary64) : c ∉ (x.text words).toList := by
  have hUnsigned : c ∉ (if x.isFinite then x.shortest.layout else words.infinity).toList := by
    split
    · exact not_mem_layout hForeign x.shortest
    · exact hInfinity
  unfold Binary64.text
  dsimp only
  split
  · exact hNaN
  · split
    · rw [String.toList_append, List.mem_append, not_or]
      exact ⟨hForeign.not_mem (by decide), hUnsigned⟩
    · exact hUnsigned

end

theorem length_toDigits_le {n width : Nat} (hWidth : 0 < width) (hFew : n < Nat.pow 10 width) :
    (Nat.toDigits 10 n).length ≤ width :=
  (Nat.length_toDigits_le_iff (by decide) hWidth).2 hFew

/-- An integer is written as its sign and its digits. -/
theorem toList_of_decimal? {n : Int} {text : String} (hText : decimal? n = some text) :
    text.toList = (if decide (n < 0) then ['-'] else []) ++ Nat.toDigits 10 n.natAbs ∧
      (Nat.toDigits 10 n.natAbs).length ≤ digitLimit := by
  unfold decimal? at hText
  split at hText
  · rename_i hFew
    obtain rfl := Option.some.inj hText
    refine ⟨?_, length_toDigits_le (by decide) hFew⟩
    rw [Int.toString_eq_repr, Int.repr_eq_if]
    by_cases hSign : 0 ≤ n
    · obtain ⟨m, rfl⟩ := Int.eq_ofNat_of_zero_le hSign
      rw [if_pos hSign, Int.toNat_natCast, Int.natAbs_natCast, Nat.toList_repr,
        decide_eq_false (Int.not_lt.2 hSign)]
      rfl
    · obtain ⟨m, rfl⟩ := Int.exists_eq_neg_ofNat (Int.le_of_lt (Int.not_le.1 hSign))
      rw [if_neg hSign, Int.neg_neg, Int.toNat_natCast, Int.natAbs_neg, Int.natAbs_natCast,
        String.toList_append, Nat.toList_repr, decide_eq_true (Int.not_le.1 hSign)]
      rfl
  · cases hText

theorem not_mem_decimal? {c : Char} (hForeign : Foreign c) {n : Int} {text : String}
    (hText : decimal? n = some text) : c ∉ text.toList := by
  obtain ⟨hList, -⟩ := toList_of_decimal? hText
  have hSign : c ∉ if decide (n < 0) then ['-'] else [] := by
    split
    · exact hForeign.not_mem (by decide)
    · exact List.not_mem_nil
  rw [hList, List.mem_append, not_or]
  exact ⟨hSign, not_mem_toDigits hForeign _⟩

end Number

namespace Json

open Text (Foreign)

/-! ## Documents without a carriage return -/

theorem not_mem_unitEscape {c : Char} (hForeign : Foreign c) (n : Nat) : c ∉ unitEscape n := by
  have hDigit : ∀ m, c ≠ Text.hexDigit m := by
    intro m
    have hAll : ∀ d < 16, Text.isVisible (Nat.digitChar d) = true := by decide
    exact hForeign.ne (hAll _ (Nat.mod_lt _ (by decide)))
  have hDigits : ∀ width m, c ∉ Text.hexDigits width m := by
    intro width
    induction width with
    | zero => exact fun _ => List.not_mem_nil
    | succ width ih =>
        intro m
        rw [Text.hexDigits, List.mem_append, List.mem_singleton, not_or]
        exact ⟨ih _, hDigit m⟩
  have hStart : c ∉ ['\\', 'u'] := hForeign.not_mem (by decide)
  exact List.not_mem_append hStart (hDigits 4 n)

/-- The characters that are written with a letter after a backslash, and the letters. -/
def letterEscapes : List (Char × Char) :=
  [('"', '"'), ('\\', '\\'), ('\n', 'n'), ('\r', 'r'), ('\t', 't'), ('\x0c', 'f'), ('\x08', 'b')]

theorem writtenChar_letterEscapes : ∀ e ∈ letterEscapes,
    writtenChar (fun _ => true) e.1 = ['\\', e.2] ∧ Reader.escaped? e.2 = some e.1 ∧
      e.2 ≠ 'u' ∧ e.2 ≠ '\r' := by
  decide

/-- A character of a text is written as an escape of its own, by its number, or as it
stands. -/
theorem writtenChar_cases (c : Char) :
    (∃ e, writtenChar (fun _ => true) c = ['\\', e] ∧ Reader.escaped? e = some c ∧ e ≠ 'u' ∧
        e ≠ '\r') ∨
      (writtenChar (fun _ => true) c = unitEscape c.toNat ∧ c.toNat < 0x20) ∨
      writtenChar (fun _ => true) c = [c] ∧ c ≠ '"' ∧ c ≠ '\\' ∧ 0x20 ≤ c.toNat := by
  by_cases hEscaped : c ∈ letterEscapes.map Prod.fst
  · obtain ⟨e, hMem, rfl⟩ := List.mem_map.1 hEscaped
    exact .inl ⟨e.2, writtenChar_letterEscapes e hMem⟩
  · simp only [letterEscapes, List.map_cons, List.map_nil, List.mem_cons, List.not_mem_nil,
      or_false, not_or] at hEscaped
    obtain ⟨hQuote, hBackslash, hLine, hReturn, hTab, hPage, hBack⟩ := hEscaped
    rw [writtenChar, if_neg (by simp [hQuote, hBackslash]), if_neg hLine, if_neg hReturn,
      if_neg hTab, if_neg hPage, if_neg hBack]
    split
    · rename_i hControl
      exact .inr (.inl ⟨rfl, hControl⟩)
    · rename_i hVisible
      exact .inr (.inr ⟨if_pos rfl, hQuote, hBackslash, Nat.le_of_not_lt hVisible⟩)

theorem return_not_mem_writtenText (s : String) :
    '\r' ∉ (writtenText s).toList := by
  have hChars : '\r' ∉ s.toList.flatMap (writtenChar fun _ => true) := by
    rw [List.mem_flatMap]
    rintro ⟨c, -, hMem⟩
    rcases writtenChar_cases c with ⟨e, hWritten, -, -, hOther⟩ | ⟨hWritten, -⟩ |
      ⟨hWritten, -, -, hVisible⟩
    · rw [hWritten] at hMem
      simp [hOther.symm] at hMem
    · rw [hWritten] at hMem
      exact not_mem_unitEscape Text.foreign_return _ hMem
    · rw [hWritten, List.mem_singleton] at hMem
      rw [← hMem] at hVisible
      exact absurd hVisible (by decide)
  rw [writtenText, String.toList_ofList]
  simp [hChars]

namespace Value

theorem not_mem_newLine {c : Char} (hForeign : Foreign c) (depth : Nat) :
    c ∉ (newLine depth).toList := by
  have hSpace := hForeign.ne (d := ' ') (by decide)
  simp [newLine, hForeign.2, hSpace]

/-- A name and a value, as they are written. -/
def writtenMember (name t : String) : String := writtenText name ++ ": " ++ t

variable {depth : Nat}

theorem indentedItems?_cons {v : Value} {vs : List Value} {parts : List String}
    (hParts : indentedItems? depth (v :: vs) = some parts) :
    ∃ t ts, v.indentedAt? depth = some t ∧ indentedItems? depth vs = some ts ∧ parts = t :: ts := by
  rw [indentedItems?] at hParts
  split at hParts
  · rename_i t ts hHead hTail
    exact ⟨t, ts, hHead, hTail, (Option.some.inj hParts).symm⟩
  · cases hParts

theorem indentedMembers?_cons {name : String} {v : Value} {ms : Members} {parts : List String}
    (hParts : indentedMembers? depth ((name, v) :: ms) = some parts) :
    ∃ t ts, v.indentedAt? depth = some t ∧ indentedMembers? depth ms = some ts ∧
      parts = writtenMember name t :: ts := by
  rw [indentedMembers?] at hParts
  split at hParts
  · rename_i t ts hHead hTail
    exact ⟨t, ts, hHead, hTail, (Option.some.inj hParts).symm⟩
  · cases hParts

theorem return_not_mem_bracketed {opening closing : String} {parts : List String}
    (hOpening : '\r' ∉ opening.toList) (hClosing : '\r' ∉ closing.toList)
    (hParts : ∀ part ∈ parts, '\r' ∉ part.toList) :
    '\r' ∉ (bracketed depth opening closing parts).toList := by
  have hLine := not_mem_newLine Text.foreign_return
  have hAll := Text.not_mem_intercalate (s := "," ++ newLine (depth + 1))
    (by simp [hLine]) hParts
  unfold bracketed
  split
  · simp [hOpening, hClosing]
  · simp only [String.toList_append, List.mem_append, not_or]
    exact ⟨⟨⟨⟨hOpening, hLine _⟩, by simpa using hAll⟩, hLine _⟩, hClosing⟩

mutual

/-- A value is written without a carriage return. -/
theorem return_not_mem_indentedAt? : ∀ (v : Value) (depth : Nat) (t : String),
    v.indentedAt? depth = some t → '\r' ∉ t.toList
  | .null => by
      rintro depth t ⟨⟩
      decide
  | .bool b => by
      rintro depth t ⟨⟩
      cases b <;> decide
  | .int n => by
      intro depth t hText
      rw [indentedAt?] at hText
      exact Number.not_mem_decimal? Text.foreign_return hText
  | .real x => by
      intro depth t hText
      rw [indentedAt?] at hText
      obtain rfl := Option.some.inj hText
      exact Number.not_mem_text Text.foreign_return (by decide) (by decide) x
  | .text s => by
      intro depth t hText
      rw [indentedAt?] at hText
      obtain rfl := Option.some.inj hText
      exact return_not_mem_writtenText s
  | .list items => by
      intro depth t hText
      rw [indentedAt?] at hText
      obtain ⟨parts, hParts, rfl⟩ := Option.map_eq_some_iff.1 hText
      exact return_not_mem_bracketed (by decide) (by decide)
        (return_not_mem_indentedItems? items _ parts hParts)
  | .object members => by
      intro depth t hText
      rw [indentedAt?] at hText
      obtain ⟨parts, hParts, rfl⟩ := Option.map_eq_some_iff.1 hText
      exact return_not_mem_bracketed (by decide) (by decide)
        (return_not_mem_indentedMembers? members _ parts hParts)

theorem return_not_mem_indentedItems? : ∀ (items : List Value) (depth : Nat)
    (parts : List String), indentedItems? depth items = some parts →
      ∀ part ∈ parts, '\r' ∉ part.toList
  | [] => by
      rintro depth parts ⟨⟩
      exact List.forall_mem_nil _
  | v :: vs => by
      intro depth parts hParts
      obtain ⟨t, ts, hHead, hTail, rfl⟩ := indentedItems?_cons hParts
      exact List.forall_mem_cons.2 ⟨return_not_mem_indentedAt? v depth t hHead,
        return_not_mem_indentedItems? vs depth ts hTail⟩

theorem return_not_mem_indentedMembers? : ∀ (members : List (String × Value)) (depth : Nat)
    (parts : List String), indentedMembers? depth members = some parts →
      ∀ part ∈ parts, '\r' ∉ part.toList
  | [] => by
      rintro depth parts ⟨⟩
      exact List.forall_mem_nil _
  | (name, v) :: ms => by
      intro depth parts hParts
      obtain ⟨t, ts, hHead, hTail, rfl⟩ := indentedMembers?_cons hParts
      refine List.forall_mem_cons.2 ⟨?_, return_not_mem_indentedMembers? ms depth ts hTail⟩
      have hName := return_not_mem_writtenText name
      have hValue := return_not_mem_indentedAt? v depth t hHead
      simp [writtenMember, hName, hValue]

end

/-- What is written for the value is read as the value. -/
def Returns (v : Value) : Prop :=
  ∃ t, v.indented? = some t ∧ Value.read t.toList = .ok v

theorem return_not_mem_indented? {v : Value} {t : String} (hText : v.indented? = some t) :
    '\r' ∉ t.toList :=
  return_not_mem_indentedAt? v 0 t hText

end Value

end Json

end ResourceSymbols
