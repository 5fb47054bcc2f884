import ResourceSymbols.Proofs.Numeral
import ResourceSymbols.RClass.Layout
import ResourceSymbols.Text.Blank
import ResourceSymbols.Text.Cut

/-!
# The text of an array

What is written for an entry that holds attributes is the declaration of an array
and a line for each index.  Here the two are put in one piece each, and the
elements are read off the array again.

## Main results

* `elements_itemPieces` — the elements are the identifiers, in their order.
* `transform_indexName` — the symbol of an index is made of the symbols of its
  parts.
* `join_arrayPieces`, `indexPieces_eq` — the declaration and the lines.
-/

namespace ResourceSymbols.Text

/-- Pieces that do not hold the separator come back from between separators. -/
theorem pieces_intercalate {α : Type} [DecidableEq α] {a : α} {ls : List (List α)}
    (hNone : ∀ l ∈ ls, a ∉ l) (hSome : ls ≠ []) :
    pieces a ([a].intercalate ls) = ls := by
  induction ls with
  | nil => exact absurd rfl hSome
  | cons l ls ih =>
      have hl : a ∉ l := hNone l List.mem_cons_self
      cases ls with
      | nil =>
          rw [List.intercalate_singleton]
          exact pieces_eq_singleton hl
      | cons m ms =>
          have hRest := ih (fun k hk => hNone k (List.mem_cons_of_mem _ hk)) (by simp)
          rw [List.intercalate_cons_cons, List.append_assoc, List.singleton_append,
            pieces_append hl, hRest]

/-- A start without a separator belongs to the first piece. -/
theorem pieces_append_first {α : Type} [DecidableEq α] {a : α} {xs ys q : List α}
    {qs : List (List α)} (hNone : a ∉ xs) (hPieces : pieces a ys = q :: qs) :
    pieces a (xs ++ ys) = (xs ++ q) :: qs := by
  induction xs with
  | nil => exact hPieces
  | cons x xs ih =>
      rw [List.mem_cons, not_or] at hNone
      rw [List.cons_append, pieces, if_neg (Ne.symm hNone.1), ih hNone.2]
      rfl

end ResourceSymbols.Text

namespace ResourceSymbols.Symbol

/-! ## Symbols of symbols -/

theorem replaceChar_replaceChar (c : Char) : replaceChar (replaceChar c) = replaceChar c := by
  unfold replaceChar
  by_cases hPoint : c = '.' ∨ c = '-'
  · rw [if_pos hPoint]
    rfl
  · rw [if_neg hPoint, if_neg hPoint]

theorem transform_append (s s' : String) :
    transform (s ++ s') = transform s ++ transform s' := by
  rw [transform, String.toList_append, List.map_append, String.ofList_append]
  rfl

/-- A symbol is its own symbol. -/
theorem transform_transform (s : String) : transform (transform s) = transform s := by
  rw [transform, transform, String.toList_ofList, List.map_map]
  exact congrArg String.ofList (List.map_congr_left fun c _ => replaceChar_replaceChar c)

end ResourceSymbols.Symbol

namespace ResourceSymbols.RClass

open Resource (Attribute Id)

/-! ## Elements -/

/-- What stands between the commas of an array, without white space.  In an empty
array nothing does. -/
def tokens (body : String) : List String :=
  let dense := body.toList.filter fun c => !Text.isBlank c
  if dense.isEmpty then [] else (Text.pieces ',' dense).map String.ofList

/-- The numbers that an array lists. -/
def elements (body : String) : List (Option Int) :=
  (tokens body).map Number.Literal.int?

private theorem text_dense (id : Id) :
    id.text.toList.filter (fun c => !Text.isBlank c) = id.text.toList := by
  rw [List.filter_eq_self]
  exact Number.Literal.forall_mem_text (P := fun c => (!Text.isBlank c) = true)
    (by decide +kernel) (by decide +kernel) (by decide +kernel) id

/-- Without white space, an array is its identifiers between commas.  The line
breaks and so the index of the first identifier do not matter. -/
theorem filter_itemPieces (index : Nat) (ids : List Id) :
    (String.join (itemPieces index ids)).toList.filter (fun c => !Text.isBlank c) =
      [','].intercalate (ids.map fun id => id.text.toList) := by
  induction ids generalizing index with
  | nil => rfl
  | cons id ids ih =>
      have hBreak : (String.join (if index % idsPerLine = 0 then [itemBreak]
          else [])).toList.filter (fun c => !Text.isBlank c) = [] := by
        split
        · decide +kernel
        · rfl
      rw [itemPieces, String.join_append, String.toList_append, List.filter_append,
        hBreak, List.nil_append, String.join_cons, String.toList_append,
        List.filter_append, text_dense, String.join_append, String.toList_append,
        List.filter_append, ih]
      cases ids with
      | nil =>
          show id.text.toList ++ ([] ++ []) = _
          rw [List.map_cons, List.map_nil, List.intercalate_singleton, List.append_nil,
            List.append_nil]
      | cons id' ids =>
          have hComma : (String.join [", "]).toList.filter
              (fun c => !Text.isBlank c) = [','] := by
            decide +kernel
          show id.text.toList ++ ((String.join [", "]).toList.filter _ ++ _) = _
          rw [hComma, List.map_cons (a := id), List.map_cons (a := id'),
            List.intercalate_cons_cons, List.append_assoc]

/-- Identifiers come back from between commas. -/
theorem pieces_intercalate_text {ids : List Id} (hSome : ids ≠ []) :
    Text.pieces ',' ([','].intercalate (ids.map fun id => id.text.toList)) =
      ids.map fun id => id.text.toList := by
  refine Text.pieces_intercalate ?_ (mt List.map_eq_nil_iff.1 hSome)
  intro l hl
  obtain ⟨id, -, rfl⟩ := List.mem_map.1 hl
  exact Number.Literal.not_mem_text (by decide) (by decide) (by decide) id

/-- The tokens of an array are the prints of its identifiers. -/
theorem tokens_itemPieces (index : Nat) (ids : List Id) :
    tokens (String.join (itemPieces index ids)) = ids.map Id.text := by
  unfold tokens
  simp only [filter_itemPieces]
  cases ids with
  | nil => rfl
  | cons id ids =>
      have hPieces := pieces_intercalate_text (List.cons_ne_nil id ids)
      have hSome : ([','].intercalate
          ((id :: ids).map fun id => id.text.toList)).isEmpty = false := by
        cases hDense : [','].intercalate ((id :: ids).map fun id => id.text.toList) with
        | nil =>
            obtain ⟨ds, hText, -⟩ := Number.Literal.toList_text id
            rw [hDense] at hPieces
            have hFirst := congrArg List.head? hPieces
            simp [Text.pieces, hText] at hFirst
        | cons c cs => rfl
      rw [hSome, hPieces, List.map_map]
      exact List.map_congr_left fun id' _ => String.ofList_toList

/-- An array lists the numbers of its identifiers, in their order. -/
theorem elements_itemPieces (index : Nat) (ids : List Id) :
    elements (String.join (itemPieces index ids)) =
      ids.map fun id => some (id.number : Int) := by
  simp only [elements, tokens_itemPieces, List.map_map, Function.comp_def,
    Number.Literal.int?_text]

/-! ## Declarations and lines -/

/-- The declaration of an array. -/
def arrayText (symbol body : String) : String :=
  "        public static final int[] " ++ symbol ++ " = \x7b" ++ body ++
    "\n        \x7d;\n"

theorem join_arrayPieces (name : String) (ids : List Id) :
    String.join (arrayPieces name ids) =
      arrayText (Symbol.transform name) (String.join (itemPieces 0 ids)) := by
  unfold arrayPieces arrayText
  simp only [String.join_cons, String.join_append, String.join_nil,
    String.append_empty, String.append_assoc]

/-- The line of a constant whose symbol is settled. -/
def constantLine (style : Style) (symbol value : String) : String :=
  "        public static" ++ (if style.isFinal then " final" else "") ++ " int " ++
    symbol ++ " = " ++ value ++ ";\n"

/-- The symbol of the constant for the index of an attribute: the symbol of the
owner, that of the package unless it is the own one of the table, and that of the
attribute. -/
def indexSymbol (own owner : String) (a : Attribute) : String :=
  Symbol.transform owner ++ "_" ++
    (if a.name.package ≠ own then Symbol.transform a.name.package ++ "_" else "") ++
    Symbol.transform a.name.entry

theorem transform_indexName (own owner : String) (a : Attribute) :
    Symbol.transform (indexName own owner a) = indexSymbol own owner a := by
  have hMark : Symbol.transform "_" = "_" := by decide
  unfold indexName indexSymbol
  by_cases hOwn : a.name.package ≠ own
  · simp only [if_pos hOwn, Symbol.join, List.map_cons, List.map_nil,
      String.intercalate_cons_cons, String.intercalate_singleton,
      Symbol.transform_append, Symbol.transform_transform, hMark, String.append_assoc]
  · simp only [if_neg hOwn, Symbol.join, List.map_cons, List.map_nil,
      String.intercalate_cons_cons, String.intercalate_singleton,
      Symbol.transform_append, Symbol.transform_transform, hMark, String.append_assoc,
      String.empty_append]

/-- The lines of the indices, `index` being the first. -/
def indexLines (style : Style) (own owner : String) (index : Nat)
    (attributes : List Attribute) : List String :=
  (attributes.zipIdx index).map fun p =>
    constantLine style (indexSymbol own owner p.1) (toString p.2)

theorem indexPieces_eq (style : Style) (own owner : String) (index : Nat)
    (attributes : List Attribute) :
    indexPieces style own owner index attributes =
      indexLines style own owner index attributes := by
  induction attributes generalizing index with
  | nil => rfl
  | cons a as ih =>
      unfold indexPieces constantText
      simp only [ih, transform_indexName]
      rfl

end ResourceSymbols.RClass
