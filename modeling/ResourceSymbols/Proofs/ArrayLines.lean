import Mathlib.Algebra.Order.Floor.Div
import ResourceSymbols.Proofs.ArrayText

/-!
# The lines of an array

An array is written identifier by identifier.  At each of them two questions are
asked that do not know of each other: whether its index starts a line, and whether
it is the last one.  What comes of it is told by rows of four identifiers: each row
is a line, and each line but the last goes on with a comma.

## Main results

* `flatten_rows`, `length_rows`, `length_of_mem_dropLast_rows`,
  `length_of_mem_getLast?_rows` — the identifiers in rows that are full, but for the
  last.
* `itemPieces_append` — where the identifiers are taken apart, the writing is too.
* `join_itemPieces`, `pieces_itemPieces` — what is written is the lines of the rows.
-/

namespace ResourceSymbols.Text

/-- Pieces that each have a separator in front come back behind an empty one. -/
theorem pieces_flatMap_cons {α : Type} [DecidableEq α] {a : α}
    {ls : List (List α)} (hNone : ∀ l ∈ ls, a ∉ l) (rest : List α) :
    pieces a (ls.flatMap (fun l => a :: l) ++ a :: rest) =
      [] :: (ls ++ pieces a rest) := by
  induction ls with
  | nil => simp [pieces]
  | cons l ls ih =>
      have hRest := ih fun k hk => hNone k (List.mem_cons_of_mem _ hk)
      have hFirst := pieces_append_first (hNone l List.mem_cons_self) hRest
      rw [List.flatMap_cons, List.append_assoc, List.cons_append, pieces, if_pos rfl,
        hFirst, List.append_nil, List.cons_append]

end ResourceSymbols.Text

namespace ResourceSymbols.RClass

open Resource (Id)

/-! ## Rows -/

/-- The rows of an array: four identifiers each, as long as there are so many. -/
def rows : List Id → List (List Id)
  | [] => []
  | id :: ids => (id :: ids).take idsPerLine :: rows ((id :: ids).drop idsPerLine)
termination_by ids => ids.length
decreasing_by
  simp only [idsPerLine, List.length_drop, List.length_cons]
  omega

theorem rows_eq_nil_iff {ids : List Id} : rows ids = [] ↔ ids = [] := by
  cases ids with
  | nil => simp [rows]
  | cons id ids => simp [rows]

/-- The rows hold the identifiers in their order. -/
theorem flatten_rows (ids : List Id) : (rows ids).flatten = ids := by
  induction ids using rows.induct with
  | case1 => rw [rows, List.flatten_nil]
  | case2 id ids ih => rw [rows, List.flatten_cons, ih, List.take_append_drop]

/-- There are as many rows as it takes. -/
theorem length_rows (ids : List Id) : (rows ids).length = ids.length ⌈/⌉ idsPerLine := by
  induction ids using rows.induct with
  | case1 => rw [rows, List.length_nil, List.length_nil, zero_ceilDiv]
  | case2 id ids ih =>
      rw [rows, List.length_cons, ih, List.length_drop, Nat.ceilDiv_eq_add_pred_div,
        Nat.ceilDiv_eq_add_pred_div, List.length_cons, idsPerLine]
      omega

/-- A row that another one follows is full. -/
theorem length_of_mem_dropLast_rows {ids row : List Id}
    (hRow : row ∈ (rows ids).dropLast) : row.length = idsPerLine := by
  induction ids using rows.induct with
  | case1 => simp [rows] at hRow
  | case2 id ids ih =>
      rw [rows] at hRow
      cases hRest : rows ((id :: ids).drop idsPerLine) with
      | nil => simp [hRest] at hRow
      | cons next more =>
          have hLength : idsPerLine < (id :: ids).length := by
            rw [← List.drop_eq_nil_iff.not.trans Nat.not_le, ← rows_eq_nil_iff, hRest]
            exact List.cons_ne_nil next more
          rw [hRest, List.dropLast_cons_cons, List.mem_cons] at hRow
          rcases hRow with rfl | hRow
          · rw [List.length_take, Nat.min_eq_left hLength.le]
          · exact ih (hRest ▸ hRow)

/-- The last row is not empty, and holds no more than the others. -/
theorem length_of_mem_getLast?_rows {ids row : List Id}
    (hRow : row ∈ (rows ids).getLast?) : 1 ≤ row.length ∧ row.length ≤ idsPerLine := by
  induction ids using rows.induct with
  | case1 => simp [rows] at hRow
  | case2 id ids ih =>
      rw [rows] at hRow
      cases hRest : rows ((id :: ids).drop idsPerLine) with
      | nil =>
          rw [hRest, List.getLast?_singleton, Option.mem_some_iff] at hRow
          rw [← hRow, List.length_take, List.length_cons, idsPerLine]
          omega
      | cons next more =>
          rw [hRest, List.getLast?_cons_cons] at hRow
          exact ih (hRest ▸ hRow)

/-! ## Lines -/

/-- A row as it is written: twelve blanks, and the identifiers between commas. -/
def rowText (row : List Id) : String :=
  String.ofList (List.replicate 12 ' ') ++ ", ".intercalate (row.map Id.text)

/-- The lines of rows.  A line that another one follows ends with a comma. -/
def arrayLines : List (List Id) → List String
  | [] => []
  | [row] => [rowText row]
  | row :: next :: more => (rowText row ++ ", ") :: arrayLines (next :: more)

/-- A line is indented by twelve blanks. -/
theorem indented_of_mem_arrayLines {rs : List (List Id)} :
    ∀ line ∈ arrayLines rs, ∃ cs, line.toList = List.replicate 12 ' ' ++ cs := by
  have hRow : ∀ row, ∃ cs, (rowText row).toList = List.replicate 12 ' ' ++ cs := by
    intro row
    rw [rowText, String.toList_append, String.toList_ofList]
    exact ⟨_, rfl⟩
  fun_induction arrayLines rs with
  | case1 => simp
  | case2 row => simpa using hRow row
  | case3 row next more ih =>
      obtain ⟨cs, hText⟩ := hRow row
      rw [List.forall_mem_cons, String.toList_append, hText, List.append_assoc]
      exact ⟨⟨_, rfl⟩, ih⟩

/-- A line holds nothing but blanks, commas, and what identifiers are printed
with. -/
theorem not_mem_arrayLines {c : Char} (hBlank : c ≠ ' ') (hComma : c ≠ ',')
    (hText : ∀ id : Id, c ∉ id.text.toList) (rs : List (List Id)) :
    ∀ line ∈ arrayLines rs, c ∉ line.toList := by
  have hMark : c ∉ ", ".toList := by
    show c ∉ [',', ' ']
    simp [hBlank, hComma]
  have hRow : ∀ row, c ∉ (rowText row).toList := by
    intro row
    rw [rowText, String.toList_append, String.toList_ofList, List.mem_append, not_or]
    refine ⟨fun hc => hBlank (List.eq_of_mem_replicate hc), ?_⟩
    refine Text.not_mem_intercalate hMark ?_
    intro part hPart
    obtain ⟨id, -, rfl⟩ := List.mem_map.1 hPart
    exact hText id
  fun_induction arrayLines rs with
  | case1 => simp
  | case2 row => simpa using hRow row
  | case3 row next more ih =>
      rw [List.forall_mem_cons, String.toList_append, List.mem_append, not_or]
      exact ⟨⟨hRow row, hMark⟩, ih⟩

/-! ## Writing row by row -/

/-- Where the identifiers are taken apart, a comma stands between what is written
for both parts. -/
theorem itemPieces_append {xs ys : List Id} (hxs : xs ≠ []) (hys : ys ≠ [])
    (index : Nat) :
    itemPieces index (xs ++ ys) =
      itemPieces index xs ++ ", " :: itemPieces (index + xs.length) ys := by
  induction xs generalizing index with
  | nil => exact absurd rfl hxs
  | cons id ids ih =>
      cases ids with
      | nil => simp [itemPieces, hys]
      | cons next ids =>
          have hRest := ih (List.cons_ne_nil next ids) (index + 1)
          have hIndex : index + (id :: next :: ids).length =
              index + 1 + (next :: ids).length := by
            rw [List.length_cons (a := id)]
            omega
          show _ ++ id.text :: ", " :: itemPieces (index + 1) (next :: ids ++ ys) =
            (_ ++ id.text :: ", " :: itemPieces (index + 1) (next :: ids)) ++ _
          rw [hRest, hIndex, List.append_assoc, List.cons_append, List.cons_append]

/-- What is written for identifiers that the line under way has room for. -/
theorem join_itemPieces_row {index : Nat} {row : List Id} (hSome : row ≠ [])
    (hRoom : index % idsPerLine + row.length ≤ idsPerLine) :
    String.join (itemPieces index row) =
      (if index % idsPerLine = 0 then itemBreak else "") ++
        ", ".intercalate (row.map Id.text) := by
  have hBreak : ∀ i, String.join (if i % idsPerLine = 0 then [itemBreak] else []) =
      if i % idsPerLine = 0 then itemBreak else "" := by
    intro i
    split <;> rfl
  induction row generalizing index with
  | nil => exact absurd rfl hSome
  | cons id ids ih =>
      rw [itemPieces, String.join_append, hBreak, String.join_cons]
      cases ids with
      | nil =>
          show _ ++ (id.text ++ "") = _
          rw [String.append_empty, List.map_cons, List.map_nil,
            String.intercalate_singleton]
      | cons next ids =>
          -- The line goes on, so there is no break before the next identifier.
          have hNext : (index + 1) % idsPerLine = index % idsPerLine + 1 := by
            simp only [idsPerLine, List.length_cons] at hRoom ⊢
            omega
          have hRest := @ih (index + 1) (List.cons_ne_nil next ids)
            (by rw [hNext, Nat.add_assoc, Nat.add_comm 1]; exact hRoom)
          rw [hNext, if_neg (Nat.succ_ne_zero _), String.empty_append] at hRest
          show _ ++ (id.text ++ String.join (", " :: itemPieces (index + 1) _)) = _
          rw [String.join_cons, hRest, List.map_cons (a := id), List.map_cons (a := next),
            String.intercalate_cons_cons, String.append_assoc]

/-- What is written for a row from where a line starts. -/
theorem join_itemPieces_start {index : Nat} {row : List Id}
    (hStart : index % idsPerLine = 0) (hSome : row ≠ [])
    (hLength : row.length ≤ idsPerLine) :
    String.join (itemPieces index row) = "\n" ++ rowText row := by
  have hBreak : itemBreak = "\n" ++ String.ofList (List.replicate 12 ' ') := by decide
  rw [join_itemPieces_row hSome (by rwa [hStart, Nat.zero_add]), if_pos hStart, hBreak,
    String.append_assoc, rowText]

/-- From where a line starts, what is written is the lines of the rows. -/
theorem join_itemPieces {index : Nat} (hStart : index % idsPerLine = 0)
    (ids : List Id) :
    String.join (itemPieces index ids) =
      String.join ((arrayLines (rows ids)).map fun line => "\n" ++ line) := by
  induction ids using rows.induct generalizing index with
  | case1 => simp [itemPieces, rows, arrayLines]
  | case2 id ids ih =>
      have hTake : (id :: ids).take idsPerLine ≠ [] := by simp [idsPerLine]
      have hRow := join_itemPieces_start hStart hTake (List.length_take_le _ _)
      rw [rows]
      by_cases hDrop : (id :: ids).drop idsPerLine = []
      · -- One row takes all that is left.
        have hAll : (id :: ids).take idsPerLine = id :: ids := by
          rw [List.take_eq_self_iff]
          exact List.drop_eq_nil_iff.1 hDrop
        rw [hAll] at hRow ⊢
        rw [hRow, hDrop, rows, arrayLines, List.map_singleton, String.join_cons,
          String.join_nil, String.append_empty]
      · -- A full row comes off, and a line starts after it.
        have hFull : ((id :: ids).take idsPerLine).length = idsPerLine := by
          rw [List.length_take, Nat.min_eq_left]
          rw [List.drop_eq_nil_iff, Nat.not_le] at hDrop
          exact hDrop.le
        have hNext : (index + idsPerLine) % idsPerLine = 0 := by
          rw [Nat.add_mod_right, hStart]
        have hItems := itemPieces_append hTake hDrop index
        rw [List.take_append_drop, hFull] at hItems
        obtain ⟨next, more, hRest⟩ := List.exists_cons_of_ne_nil
          (mt rows_eq_nil_iff.1 hDrop)
        rw [hItems, String.join_append, String.join_cons, hRow, ih hNext, hRest, arrayLines,
          List.map_cons, String.join_cons, String.append_assoc, String.append_assoc,
          String.append_assoc]

/-- The text of the lines, each behind a break. -/
theorem toList_join_itemPieces (ids : List Id) :
    (String.join (itemPieces 0 ids)).toList =
      ((arrayLines (rows ids)).map String.toList).flatMap fun l => '\n' :: l := by
  rw [join_itemPieces (Nat.zero_mod _), String.toList_join, List.flatMap_map,
    List.flatMap_map]
  simp only [String.toList_append]
  rfl

/-- Read line by line, an array is the lines of its rows. -/
theorem pieces_itemPieces (ids : List Id) (rest : List Char) :
    Text.pieces '\n' ((String.join (itemPieces 0 ids)).toList ++ '\n' :: rest) =
      [] :: ((arrayLines (rows ids)).map String.toList ++ Text.pieces '\n' rest) := by
  have hNone : ∀ l ∈ (arrayLines (rows ids)).map String.toList, '\n' ∉ l := by
    rw [List.forall_mem_map]
    exact not_mem_arrayLines (by decide) (by decide)
      (Number.Literal.not_mem_text (by decide) (by decide) (by decide)) (rows ids)
  rw [toList_join_itemPieces, Text.pieces_flatMap_cons hNone]

end ResourceSymbols.RClass
