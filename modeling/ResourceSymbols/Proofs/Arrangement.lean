import ResourceSymbols.Proofs.ArrayText
import ResourceSymbols.Proofs.Emission

/-!
# Arrays and their indices agree

The constant for an index names the attribute whose identifier stands at that
place of the array: both follow one arrangement of the attributes.

## Main results

* `arrange_perm`, `sorted_arrange`, `pairwise_arrange` — the arrangement puts the
  attributes in ascending order.
* `join_pieces_array` — the text of an array and its indices.
* `array_agrees_with_indices` — what a class holds for an entry with attributes.
-/

namespace ResourceSymbols.RClass

open Resource (Attribute Entry Group Id Table)

/-! ## The arrangement -/

theorem attributeLe_iff {a b : Attribute} :
    attributeLe a b = true ↔ a.id.number < b.id.number ∨
      (a.id.number = b.id.number ∧ a.name.text ≤ b.name.text) := by
  have hBefore : (b.id.before a.id) = false ↔ a.id.number ≤ b.id.number := by
    rw [← Bool.not_eq_true, Id.before_iff, Nat.not_lt]
  unfold attributeLe
  rw [Bool.or_eq_true, Bool.and_eq_true, Id.before_iff, Bool.not_eq_true', hBefore,
    decide_eq_true_eq]
  constructor
  · rintro (hLt | ⟨hLe, hText⟩)
    · exact .inl hLt
    · rcases Nat.lt_or_eq_of_le hLe with hLt | hEq
      · exact .inl hLt
      · exact .inr ⟨hEq, hText⟩
  · rintro (hLt | ⟨hEq, hText⟩)
    · exact .inl hLt
    · exact .inr ⟨Nat.le_of_eq hEq, hText⟩

theorem attributeLe_total (a b : Attribute) :
    (attributeLe a b || attributeLe b a) = true := by
  rw [Bool.or_eq_true, attributeLe_iff, attributeLe_iff]
  rcases Nat.lt_trichotomy a.id.number b.id.number with hLt | hEq | hGt
  · exact .inl (.inl hLt)
  · rcases String.le_total a.name.text b.name.text with hText | hText
    · exact .inl (.inr ⟨hEq, hText⟩)
    · exact .inr (.inr ⟨hEq.symm, hText⟩)
  · exact .inr (.inl hGt)

theorem attributeLe_trans (a b c : Attribute) (hab : attributeLe a b = true)
    (hbc : attributeLe b c = true) : attributeLe a c = true := by
  rw [attributeLe_iff] at hab hbc ⊢
  rcases hab with hab | ⟨hab, hab'⟩
  · left
    omega
  · rcases hbc with hbc | ⟨hbc, hbc'⟩
    · left
      omega
    · exact .inr ⟨hab.trans hbc, String.le_trans hab' hbc'⟩

/-- The arrangement has every attribute as often as it was given. -/
theorem arrange_perm (attributes : List Attribute) :
    (arrange attributes).Perm attributes :=
  List.mergeSort_perm attributes attributeLe

/-- The arrangement is sorted by identifier, and by name where identifiers are
equal. -/
theorem sorted_arrange (attributes : List Attribute) :
    (arrange attributes).Pairwise fun a b => attributeLe a b = true :=
  List.pairwise_mergeSort attributeLe_trans attributeLe_total attributes

/-- The arrangement ascends. -/
theorem pairwise_arrange (attributes : List Attribute) :
    (arrange attributes).Pairwise fun a b => a.id.number ≤ b.id.number := by
  refine (sorted_arrange attributes).imp ?_
  intro a b hLe
  rcases attributeLe_iff.1 hLe with hLt | ⟨hEq, -⟩
  · exact Nat.le_of_lt hLt
  · exact Nat.le_of_eq hEq

/-! ## What is written -/

/-- What is written for arranged attributes: the array, and the lines of the
indices after it. -/
theorem join_pieces_array (style : Style) (own name : String)
    (attributes : List Attribute) :
    String.join ((Fate.array name attributes).pieces style own) =
      arrayText (Symbol.transform name)
          (String.join (itemPieces 0 (attributes.map Attribute.id))) ++
        String.join (indexLines style own name 0 attributes) := by
  rw [Fate.pieces, String.join_append, join_arrayPieces, indexPieces_eq]

section

variable (style : Style) {t : Table} {package plain : String} {g : Group} {e : Entry}

/-- An entry of the package that holds attributes and does not offend gives an
array of them. -/
theorem pieces_runEntry_array {attributes : List Attribute}
    {more : List Resource.Value} (hOwner : e.BelongsTo t.package package plain)
    (hKind : g.kind = .styleable) (hValues : e.values = .styleable attributes :: more)
    (hNone : offence? t (some package) g e = none) :
    (runEntry style t (some package) g e).pieces =
      (Fate.array plain (arrange attributes)).pieces style t.package := by
  obtain ⟨hOrigin, rfl⟩ := Entry.belongsTo_iff.1 hOwner
  obtain ⟨id, -, hPieces⟩ := pieces_runEntry style t hNone
  rw [hPieces, if_pos hOrigin, hValues, declaration, if_pos hKind]

/-- For an entry that holds attributes, the class has an array of their
identifiers in ascending order, and after it one constant for each place of the
array, named after the attribute whose identifier stands there. -/
theorem array_agrees_with_indices {attributes : List Attribute}
    {more : List Resource.Value} {sink : Sink}
    (hReached : Reached t (some package) g e)
    (hOwner : e.BelongsTo t.package package plain) (hKind : g.kind = .styleable)
    (hValues : e.values = .styleable attributes :: more)
    (hNone : offence? t (some package) g e = none)
    (hSink : sink.TakesAll style t package) :
    ∃ arranged : List Attribute, arranged.Perm attributes ∧
      (arranged.Pairwise fun a b => a.id.number ≤ b.id.number) ∧
      ∃ body, elements body = arranged.map (fun a => some (a.id.number : Int)) ∧
        String.join (runEntry style t (some package) g e).pieces =
          arrayText (Symbol.transform plain) body ++
            String.join (arranged.zipIdx.map fun p =>
              constantLine style (indexSymbol t.package plain p.1) (toString p.2)) ∧
        ∃ before after, (generate style t (.text package) sink).written =
          before ++ String.join (runEntry style t (some package) g e).pieces ++
            after := by
  refine ⟨arrange attributes, arrange_perm attributes, pairwise_arrange attributes,
    String.join (itemPieces 0 ((arrange attributes).map Attribute.id)), ?_, ?_, ?_⟩
  · rw [elements_itemPieces, List.map_map]
    rfl
  · rw [pieces_runEntry_array style hOwner hKind hValues hNone]
    exact join_pieces_array style t.package plain (arrange attributes)
  · obtain ⟨before, after, hPieces⟩ := runEntry_infix_run style t (some package)
      package hReached
    refine ⟨String.join before, String.join after, ?_⟩
    rw [written_generate hSink, ← hPieces, String.join_append, String.join_append]

end

/-- A styleable of a library whose attributes come in descending order: one of the
library, the same identifier twice, and one of the own package of the table. -/
def viewEntry : Entry :=
  ⟨"lib$My.View", 1, [.styleable [⟨.ofWords 0x7F 1 2, ⟨"lib", .attr, "b-c"⟩⟩,
    ⟨.ofWords 1 1 0, ⟨"android", .attr, "text"⟩⟩, ⟨.ofWords 0x7F 1 2, ⟨"app", .attr, "a"⟩⟩]]⟩

/-- The group of `viewEntry`, in which an entry of another package comes first. -/
def viewGroup : Group := ⟨.styleable, 2, [⟨"class", 0, []⟩, viewEntry]⟩

/-- The table of `viewGroup`. -/
def viewTable : Table := ⟨"app", 0x7F, [viewGroup]⟩

theorem array_agrees_with_indices_viewTable :
    Reached viewTable (some "lib") viewGroup viewEntry ∧
      viewEntry.BelongsTo viewTable.package "lib" "My.View" ∧
      offence? viewTable (some "lib") viewGroup viewEntry = none ∧
      ∃ arranged : List Attribute, arranged.length = 3 ∧
        (arranged.Pairwise fun a b => a.id.number ≤ b.id.number) ∧
        ∃ body, elements body = arranged.map (fun a => some (a.id.number : Int)) ∧
          String.join (runEntry ⟨true⟩ viewTable (some "lib") viewGroup
              viewEntry).pieces =
            arrayText (Symbol.transform "My.View") body ++
              String.join (arranged.zipIdx.map fun p =>
                constantLine ⟨true⟩ (indexSymbol viewTable.package "My.View" p.1)
                  (toString p.2)) := by
  have hReached : Reached viewTable (some "lib") viewGroup viewEntry := by
    refine ⟨[], [], [⟨"class", 0, []⟩], [], rfl, rfl, by simp, ?_⟩
    intro d hd
    rw [List.mem_singleton.1 hd]
    decide +kernel
  have hOwner : viewEntry.BelongsTo viewTable.package "lib" "My.View" :=
    .inl ⟨by decide, by decide⟩
  have hNone : offence? viewTable (some "lib") viewGroup viewEntry = none := by
    decide +kernel
  have hSink : ({} : Sink).TakesAll ⟨true⟩ viewTable "lib" := takesAll_of_unlimited rfl rfl
  obtain ⟨arranged, hPerm, hSorted, body, hElements, hText, -⟩ :=
    array_agrees_with_indices ⟨true⟩ hReached hOwner rfl rfl hNone hSink
  exact ⟨hReached, hOwner, hNone, arranged, hPerm.length_eq, hSorted, body, hElements,
    hText⟩

end ResourceSymbols.RClass
