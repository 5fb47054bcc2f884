/-!
# Cutting and splitting

`cut` takes a list apart at the first separator, `pieces` at every separator.

## Main results

* `cut_eq_none_iff`, `cut_eq_some_iff` — `cut` finds the first separator and
  nothing else.
* `pieces_eq_singleton`, `pieces_append` — the pieces are what stands between
  the separators.
* `mem_of_mem_pieces` — what stands in a piece.
-/

namespace ResourceSymbols.Text

variable {α : Type} [DecidableEq α]

/-! ## Lists -/

/-- What stands before and after the first `a`, or nothing where there is no
`a`. -/
def cut (a : α) : List α → Option (List α × List α)
  | [] => none
  | x :: xs => if x = a then some ([], xs) else (cut a xs).map fun p => (x :: p.1, p.2)

/-- The pieces between the `a`s, one more than there are `a`s. -/
def pieces (a : α) : List α → List (List α)
  | [] => [[]]
  | x :: xs =>
    if x = a then [] :: pieces a xs
    else
      match pieces a xs with
      | [] => [[x]]
      | p :: ps => (x :: p) :: ps

theorem cut_eq_none_iff {a : α} {xs : List α} : cut a xs = none ↔ a ∉ xs := by
  induction xs with
  | nil => simp [cut]
  | cons x xs ih =>
    by_cases h : x = a
    · simp [cut, h]
    · simp [cut, h, ih, Ne.symm h]

theorem cut_eq_some_iff {a : α} {xs l r : List α} :
    cut a xs = some (l, r) ↔ xs = l ++ a :: r ∧ a ∉ l := by
  induction xs generalizing l with
  | nil => simp [cut]
  | cons x xs ih =>
    by_cases h : x = a
    · subst h
      constructor
      · intro e
        simp only [cut, if_pos, Option.some.injEq, Prod.mk.injEq] at e
        obtain ⟨rfl, rfl⟩ := e
        simp
      · rintro ⟨e, n⟩
        cases l with
        | nil => simp_all [cut]
        | cons y l => simp_all
    · simp only [cut, if_neg h, Option.map_eq_some_iff, Prod.mk.injEq, Prod.exists]
      constructor
      · rintro ⟨l', r', e, rfl, rfl⟩
        obtain ⟨rfl, n⟩ := ih.1 e
        simp [n, Ne.symm h]
      · rintro ⟨e, n⟩
        cases l with
        | nil => simp_all
        | cons y l =>
          simp only [List.cons_append, List.cons.injEq] at e
          obtain ⟨rfl, rfl⟩ := e
          exact ⟨l, r, ih.2 ⟨rfl, fun m => n (List.mem_cons_of_mem _ m)⟩, rfl, rfl⟩

theorem pieces_ne_nil (a : α) (xs : List α) : pieces a xs ≠ [] := by
  cases xs with
  | nil => simp [pieces]
  | cons x xs =>
    simp only [pieces]
    split
    · simp
    · split <;> simp

theorem pieces_eq_singleton {a : α} {xs : List α} (h : a ∉ xs) : pieces a xs = [xs] := by
  induction xs with
  | nil => rfl
  | cons x xs ih =>
    simp only [List.mem_cons, not_or] at h
    simp [pieces, ih h.2, Ne.symm h.1]

theorem pieces_append {a : α} {l r : List α} (h : a ∉ l) :
    pieces a (l ++ a :: r) = l :: pieces a r := by
  induction l with
  | nil => simp [pieces]
  | cons x l ih =>
    simp only [List.mem_cons, not_or] at h
    simp [pieces, ih h.2, Ne.symm h.1]

/-- A piece holds no separator, and nothing that the whole does not hold. -/
theorem mem_of_mem_pieces {a x : α} {xs p : List α}
    (hPiece : p ∈ pieces a xs) (hMem : x ∈ p) : x ≠ a ∧ x ∈ xs := by
  induction xs generalizing p with
  | nil =>
      rw [pieces, List.mem_singleton] at hPiece
      rw [hPiece] at hMem
      cases hMem
  | cons y ys ih =>
      have hSome := pieces_ne_nil a ys
      unfold pieces at hPiece
      cases hPieces : pieces a ys with
      | nil => exact absurd hPieces hSome
      | cons q qs =>
          rw [hPieces] at ih hPiece
          have hLater : ∀ {r}, r ∈ q :: qs → x ∈ r → x ≠ a ∧ x ∈ y :: ys := fun hr hx =>
            ⟨(ih hr hx).1, List.mem_cons_of_mem y (ih hr hx).2⟩
          by_cases hSeparator : y = a
          · rw [if_pos hSeparator, List.mem_cons] at hPiece
            rcases hPiece with rfl | hPiece
            · cases hMem
            · exact hLater hPiece hMem
          · rw [if_neg hSeparator, List.mem_cons] at hPiece
            rcases hPiece with rfl | hPiece
            · rcases List.mem_cons.1 hMem with rfl | hMem
              · exact ⟨hSeparator, List.mem_cons_self⟩
              · exact hLater List.mem_cons_self hMem
            · exact hLater (List.mem_cons_of_mem q hPiece) hMem

/-! ## Texts -/

/-- The text before and after the first `c`, or nothing where there is no
`c`. -/
def cutText (c : Char) (s : String) : Option (String × String) :=
  (cut c s.toList).map fun p => (String.ofList p.1, String.ofList p.2)

/-- The texts between the occurrences of `c`. -/
def splitText (c : Char) (s : String) : List String :=
  (pieces c s.toList).map String.ofList

theorem cutText_eq_none_iff {c : Char} {s : String} :
    cutText c s = none ↔ c ∉ s.toList := by
  simp [cutText, cut_eq_none_iff]

theorem cutText_eq_some_iff {c : Char} {s l r : String} :
    cutText c s = some (l, r) ↔ s.toList = l.toList ++ c :: r.toList ∧ c ∉ l.toList := by
  simp only [cutText, Option.map_eq_some_iff, Prod.mk.injEq, Prod.exists]
  constructor
  · rintro ⟨a, b, e, rfl, rfl⟩
    simpa using cut_eq_some_iff.1 e
  · rintro ⟨e, n⟩
    exact ⟨l.toList, r.toList, cut_eq_some_iff.2 ⟨e, n⟩, by simp, by simp⟩

/-- A text is cut where the mark stands for the first time. -/
theorem cutText_eq_some_iff_append {c : Char} {mark : String} (hMark : mark.toList = [c])
    {s l r : String} : cutText c s = some (l, r) ↔ s = l ++ mark ++ r ∧ c ∉ l.toList := by
  rw [cutText_eq_some_iff, ← String.toList_inj, String.toList_append, String.toList_append,
    hMark, List.append_assoc, List.singleton_append]

/-- A character that is in no part and not between them is not in the whole. -/
theorem not_mem_intercalate {c : Char} {s : String} (hSeparator : c ∉ s.toList)
    {parts : List String} (hParts : ∀ part ∈ parts, c ∉ part.toList) :
    c ∉ (s.intercalate parts).toList := by
  induction parts with
  | nil => simp
  | cons part parts ih =>
    obtain ⟨hHead, hTail⟩ := List.forall_mem_cons.1 hParts
    cases parts with
    | nil => rwa [String.intercalate_singleton]
    | cons next parts =>
      rw [String.intercalate_cons_cons, String.toList_append, String.toList_append,
        List.mem_append, List.mem_append, not_or, not_or]
      exact ⟨⟨hHead, hSeparator⟩, ih hTail⟩

end ResourceSymbols.Text
