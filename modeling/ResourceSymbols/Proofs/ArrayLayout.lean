import ResourceSymbols.Proofs.Arrangement
import ResourceSymbols.Proofs.ArrayLines

/-!
# The layout of an array

What stands between the braces of an array is the lines of its rows.  Without the
white space, it is the identifiers between commas: the breaks and the commas are
written for reasons of their own, and still fit together for every number of
identifiers.

## Main results

* `laidOut_inside` — what stands between the braces is laid out.
* `array_layout` — so is every array that is declared.
-/

namespace ResourceSymbols.Text

/-- A separator takes the pieces of the whole apart into those before and those
after it. -/
theorem pieces_append_cons {α : Type} [DecidableEq α] {a : α} (xs ys : List α) :
    pieces a (xs ++ a :: ys) = pieces a xs ++ pieces a ys := by
  induction xs with
  | nil => simp [pieces]
  | cons x xs ih =>
      by_cases hx : x = a
      · rw [List.cons_append, pieces, pieces, if_pos hx, if_pos hx, ih, List.cons_append]
      · rw [List.cons_append, pieces, pieces, if_neg hx, if_neg hx, ih]
        cases hPieces : pieces a xs with
        | nil => exact absurd hPieces (pieces_ne_nil a xs)
        | cons p ps => rfl

end ResourceSymbols.Text

namespace ResourceSymbols.RClass

open Resource (Attribute Id)

/-! ## Between the braces -/

/-- A text without its white space. -/
def dense (text : String) : List Char := text.toList.filter fun c => !Text.isBlank c

/-- What stands between the braces of an array: what is written for its identifiers,
and the indent of the closing brace. -/
def inside (ids : List Id) : String := String.join (itemPieces 0 ids) ++ "\n        "

theorem toList_inside (ids : List Id) :
    (inside ids).toList =
      (String.join (itemPieces 0 ids)).toList ++ '\n' :: List.replicate 8 ' ' := by
  rw [inside, String.toList_append]
  rfl

theorem dense_inside (ids : List Id) :
    dense (inside ids) = [','].intercalate (ids.map fun id => id.text.toList) := by
  have hIndent : "\n        ".toList.filter (fun c => !Text.isBlank c) = [] := by
    decide +kernel
  rw [dense, inside, String.toList_append, List.filter_append, filter_itemPieces, hIndent,
    List.append_nil]

/-- How the identifiers of an array stand in the text between its braces, row by
row. -/
structure LaidOut (ids : List Id) (rs : List (List Id)) (between : String) : Prop where
  /-- The rows hold the identifiers in their order. -/
  flatten_eq : rs.flatten = ids
  /-- There are as many rows as it takes. -/
  length_eq : rs.length = ids.length ⌈/⌉ 4
  /-- Every row but the last holds four. -/
  full : ∀ row ∈ rs.dropLast, row.length = 4
  /-- The last row holds one to four. -/
  last : ∀ row ∈ rs.getLast?, 1 ≤ row.length ∧ row.length ≤ 4
  /-- After the opening brace and before the indent of the closing one there are the
  lines of the rows and no others. -/
  lines : Text.pieces '\n' between.toList =
    [] :: ((arrayLines rs).map String.toList ++ [List.replicate 8 ' '])
  /-- Without white space, the identifiers stand between the commas. -/
  pieces : ids ≠ [] → Text.pieces ',' (dense between) = ids.map fun id => id.text.toList
  /-- Nothing is left out between two commas. -/
  piece_ne_nil : ids ≠ [] → [] ∉ Text.pieces ',' (dense between)
  /-- No comma follows the last identifier. -/
  no_trailing : (dense between).getLast? ≠ some ','
  /-- Without identifiers there is nothing but white space. -/
  empty : ids = [] → rs = [] ∧ dense between = []

theorem laidOut_inside (ids : List Id) : LaidOut ids (rows ids) (inside ids) := by
  have hPieces : ids ≠ [] →
      Text.pieces ',' (dense (inside ids)) = ids.map fun id => id.text.toList := by
    intro hSome
    rw [dense_inside, pieces_intercalate_text hSome]
  have hPiece : ids ≠ [] → [] ∉ Text.pieces ',' (dense (inside ids)) := by
    intro hSome hEmpty
    rw [hPieces hSome, List.mem_map] at hEmpty
    obtain ⟨id, -, hText⟩ := hEmpty
    obtain ⟨ds, hDigits, -⟩ := Number.Literal.toList_text id
    rw [hDigits] at hText
    exact List.cons_ne_nil _ _ hText
  refine
    { flatten_eq := flatten_rows ids
      length_eq := length_rows ids
      full := fun row hRow => length_of_mem_dropLast_rows hRow
      last := fun row hRow => length_of_mem_getLast?_rows hRow
      lines := ?_
      pieces := hPieces
      piece_ne_nil := hPiece
      no_trailing := ?_
      empty := ?_ }
  · have hIndent : Text.pieces '\n' (List.replicate 8 ' ') = [List.replicate 8 ' '] :=
      Text.pieces_eq_singleton (by decide)
    rw [toList_inside, pieces_itemPieces, hIndent]
  · -- A comma at the end would have an empty piece after it.
    intro hLast
    obtain ⟨front, hFront⟩ := List.getLast?_eq_some_iff.1 hLast
    by_cases hSome : ids = []
    · rw [hSome, dense_inside] at hLast
      cases hLast
    · refine hPiece hSome ?_
      rw [hFront, Text.pieces_append_cons]
      exact List.mem_append_right _ (List.mem_singleton_self [])
  · rintro rfl
    exact ⟨rows_eq_nil_iff.2 rfl, dense_inside []⟩

/-- The closing brace of an array is the first one after its opening. -/
theorem brace_not_mem_inside (ids : List Id) : '\x7d' ∉ (inside ids).toList := by
  have hLines := not_mem_arrayLines (c := '\x7d') (by decide) (by decide)
    (Number.Literal.not_mem_text (by decide) (by decide) (by decide)) (rows ids)
  rw [toList_inside, toList_join_itemPieces, List.mem_append, not_or, List.mem_flatMap]
  refine ⟨?_, by decide⟩
  rintro ⟨l, hl, hMem⟩
  obtain ⟨line, hLine, rfl⟩ := List.mem_map.1 hl
  rcases List.mem_cons.1 hMem with hBreak | hMem
  · exact absurd hBreak (by decide)
  · exact hLines line hLine hMem

/-- For attributes that are assigned and complete, an array is declared of them in
order, and the text between its braces is laid out in rows of four. -/
theorem array_layout (style : Style) (own name : String) (id : Id)
    {attributes : List Attribute} (more : List Resource.Value)
    (hSound : ∀ a ∈ attributes, a.id.isAssigned = true ∧ a.name.isComplete = true) :
    declare .styleable id name (.styleable attributes :: more) =
        .ok (.array name (arrange attributes)) ∧
      (arrange attributes).Perm attributes ∧
      ((arrange attributes).Pairwise fun a b => a.id.number < b.id.number ∨
        (a.id.number = b.id.number ∧ a.name.text ≤ b.name.text)) ∧
      ∃ (rs : List (List Id)) (between : String),
        String.join ((Fate.array name (arrange attributes)).pieces style own) =
            "        public static final int[] " ++ Symbol.transform name ++ " = \x7b" ++
              between ++ "\x7d;\n" ++
              String.join (indexLines style own name 0 (arrange attributes)) ∧
          '\x7d' ∉ between.toList ∧
          LaidOut ((arrange attributes).map Attribute.id) rs between := by
  have hCheck : checkAttributes name attributes = .ok () :=
    checkAttributes_eq_ok_iff.2 hSound
  have hDeclare : declare .styleable id name (.styleable attributes :: more) =
      .ok (.array name (arrange attributes)) := by
    unfold declare
    simp only [if_pos, hCheck, Except.map]
  have hSorted : (arrange attributes).Pairwise fun a b => a.id.number < b.id.number ∨
      (a.id.number = b.id.number ∧ a.name.text ≤ b.name.text) :=
    (sorted_arrange attributes).imp attributeLe_iff.1
  have hText : String.join ((Fate.array name (arrange attributes)).pieces style own) =
      "        public static final int[] " ++ Symbol.transform name ++ " = \x7b" ++
        inside ((arrange attributes).map Attribute.id) ++ "\x7d;\n" ++
        String.join (indexLines style own name 0 (arrange attributes)) := by
    have hClosing : "\n        \x7d;\n" = "\n        " ++ "\x7d;\n" := by decide
    unfold inside
    rw [join_pieces_array]
    unfold arrayText
    simp only [hClosing, String.append_assoc]
  exact ⟨hDeclare, arrange_perm attributes, hSorted, _, _, hText,
    brace_not_mem_inside _, laidOut_inside _⟩

/-- Five attributes that are stored in descending order: one of another package, and
an identifier that stands twice. -/
def themeRow : List Attribute :=
  [⟨.ofWords 0x7F 1 3, ⟨"app", .attr, "d"⟩⟩, ⟨.ofWords 0x7F 1 2, ⟨"app", .attr, "c"⟩⟩,
    ⟨.ofWords 0x7F 1 1, ⟨"app", .attr, "b"⟩⟩, ⟨.ofWords 0x7F 1 1, ⟨"app", .attr, "a"⟩⟩,
    ⟨.ofWords 1 1 0, ⟨"android", .attr, "text"⟩⟩]

/-- Of the five, four stand on the first line and one on the second. -/
theorem array_layout_themeRow :
    (∀ a ∈ themeRow, a.id.isAssigned = true ∧ a.name.isComplete = true) ∧
      ∃ (rs : List (List Id)) (between : String),
        String.join ((Fate.array "Theme" (arrange themeRow)).pieces ⟨true⟩ "app") =
            "        public static final int[] " ++ Symbol.transform "Theme" ++
              " = \x7b" ++ between ++ "\x7d;\n" ++
              String.join (indexLines ⟨true⟩ "app" "Theme" 0 (arrange themeRow)) ∧
          rs.map List.length = [4, 1] ∧
          LaidOut ((arrange themeRow).map Attribute.id) rs between := by
  have hSound : ∀ a ∈ themeRow, a.id.isAssigned = true ∧ a.name.isComplete = true := by
    decide
  obtain ⟨-, hPerm, -, rs, between, hText, -, hLaid⟩ :=
    array_layout ⟨true⟩ "app" "Theme" (.ofWords 0x7F 2 0) [] hSound
  have hIds : ((arrange themeRow).map Attribute.id).length = 5 := by
    rw [List.length_map, hPerm.length_eq]
    rfl
  have hRows : rs.map List.length = [4, 1] := by
    have hCount : rs.length = 2 := by
      rw [hLaid.length_eq, hIds]
      rfl
    obtain ⟨first, second, rfl⟩ := List.length_eq_two.1 hCount
    have hFirst : first.length = 4 := hLaid.full first (by simp)
    have hBoth : first.length + second.length = 5 := by
      rw [← hIds, ← hLaid.flatten_eq]
      simp
    simp only [List.map_cons, List.map_nil, List.cons.injEq, and_true]
    omega
  exact ⟨hSound, rs, between, hText, hRows, hLaid⟩

end ResourceSymbols.RClass
