import Mathlib
import ResourceSymbols.Proofs.Arrangement

/-!
# Names of indices

The constant for an index is named after its entry and its attribute, with the package of
the attribute in between unless it is the own one of the table.  The parts are set apart by
underscores, and an underscore may also come of a point or a hyphen in one of them.  So a
name does not tell its parts: `a_b` in the package `x` and `b` in the package `x_a` give the
same.  The package keeps apart what shares the name of an entry, and nothing more.

## Main results

* `append_mark_eq_iff` — what two pairs of parts with the same text have in common.
* `indexSymbol_eq_iff` — which attributes give the same name.
* `index_names_nodup_iff` — when the names of an array and its indices are distinct.
* `index_names_nodup_iff_themeAttributes`, `not_nodup_crossedAttributes` — one styleable, and
  another one with two equal names.
-/

namespace ResourceSymbols

/-! ## Parts with an underscore in between -/

theorem append_cons_eq_append_cons_iff {α : Type} {m : α} {xs us ys vs : List α} :
    xs ++ m :: us = ys ++ m :: vs ↔
      (xs = ys ∧ us = vs) ∨ (∃ r, xs = ys ++ m :: r ∧ vs = r ++ m :: us) ∨
        ∃ r, ys = xs ++ m :: r ∧ us = r ++ m :: vs := by
  constructor
  · intro hText
    rcases List.append_eq_append_iff.1 hText with ⟨more, hLeft, hRight⟩ | ⟨more, hLeft, hRight⟩
    · cases more with
      | nil =>
          rw [List.append_nil] at hLeft
          exact .inl ⟨hLeft.symm, (List.cons.inj hRight).2⟩
      | cons d r =>
          obtain ⟨rfl, hRest⟩ := List.cons.inj hRight
          exact .inr (.inr ⟨r, hLeft, hRest⟩)
    · cases more with
      | nil =>
          rw [List.append_nil] at hLeft
          exact .inl ⟨hLeft, (List.cons.inj hRight).2.symm⟩
      | cons d r =>
          obtain ⟨rfl, hRest⟩ := List.cons.inj hRight
          exact .inr (.inl ⟨r, hLeft, hRest⟩)
  · rintro (⟨rfl, rfl⟩ | ⟨r, rfl, rfl⟩ | ⟨r, rfl, rfl⟩)
    · rfl
    · rw [List.append_assoc, List.cons_append]
    · rw [List.append_assoc, List.cons_append]

/-- Two pairs of parts with the same text are the same, or what one of them has in its first
part beyond that of the other, the other has in its second part. -/
theorem append_mark_eq_iff {x u y v : String} :
    x ++ "_" ++ u = y ++ "_" ++ v ↔
      (x = y ∧ u = v) ∨ (∃ r, x = y ++ "_" ++ r ∧ v = r ++ "_" ++ u) ∨
        ∃ r, y = x ++ "_" ++ r ∧ u = r ++ "_" ++ v := by
  have hMark : "_".toList = ['_'] := rfl
  have hShift : ∀ {x u y v : String}, (∃ r, x = y ++ "_" ++ r ∧ v = r ++ "_" ++ u) ↔
      ∃ r, x.toList = y.toList ++ '_' :: r ∧ v.toList = r ++ '_' :: u.toList := by
    intro x u y v
    constructor
    · rintro ⟨r, rfl, rfl⟩
      exact ⟨r.toList, by simp [hMark]⟩
    · rintro ⟨r, hx, hv⟩
      refine ⟨String.ofList r, String.toList_inj.1 ?_, String.toList_inj.1 ?_⟩
      · simp [hMark, hx]
      · simp [hMark, hv]
  rw [hShift, hShift, ← String.toList_inj, ← String.toList_inj, ← String.toList_inj]
  simpa [hMark] using append_cons_eq_append_cons_iff

namespace RClass

open Resource (Attribute Entry Group Table)
open ResourceSymbols.Symbol (transform)

/-! ## Attributes with the same name -/

/-- The symbols of the package and of the entry of an attribute. -/
def symbolPair (a : Attribute) : String × String :=
  (transform a.name.package, transform a.name.entry)

/-- What the name of an index holds after the symbol of its owner. -/
def indexSuffix (own : String) (a : Attribute) : String :=
  (if a.name.package ≠ own then transform a.name.package ++ "_" else "") ++
    transform a.name.entry

/-- The parts of the two attributes differ, and run together into the same. -/
inductive RunTogether (own : String) (a b : Attribute) : Prop
  /-- An attribute of the own package is named like a package and an attribute of it. -/
  | own (hOwn : a.name.package = own) (hForeign : b.name.package ≠ own)
      (hEntry : transform a.name.entry = transform b.name.package ++ "_" ++ transform b.name.entry)
  /-- What one has more in its package, the other one has more in its entry. -/
  | foreign {middle : String} (hLeft : a.name.package ≠ own) (hRight : b.name.package ≠ own)
      (hPackage : transform a.name.package = transform b.name.package ++ "_" ++ middle)
      (hEntry : transform b.name.entry = middle ++ "_" ++ transform a.name.entry)

section

variable {own owner : String} {a b : Attribute}

theorem indexSymbol_eq (own owner : String) (a : Attribute) :
    indexSymbol own owner a = transform owner ++ "_" ++ indexSuffix own a := by
  rw [indexSymbol, indexSuffix, String.append_assoc]

theorem indexSuffix_own (hOwn : a.name.package = own) :
    indexSuffix own a = transform a.name.entry := by
  rw [indexSuffix, if_neg (not_not.2 hOwn), String.empty_append]

theorem indexSuffix_foreign (hForeign : a.name.package ≠ own) :
    indexSuffix own a = transform a.name.package ++ "_" ++ transform a.name.entry := by
  rw [indexSuffix, if_pos hForeign]

theorem not_runTogether_own (hOwn : b.name.package = own) : ¬ RunTogether own a b := by
  rintro (⟨-, hForeign, -⟩ | ⟨-, hForeign, -, -⟩)
  · exact hForeign hOwn
  · exact hForeign hOwn

theorem runTogether_own_iff (hOwn : a.name.package = own) (hForeign : b.name.package ≠ own) :
    RunTogether own a b ↔
      transform a.name.entry = transform b.name.package ++ "_" ++ transform b.name.entry := by
  refine ⟨?_, .own hOwn hForeign⟩
  rintro (⟨-, -, hEntry⟩ | ⟨hNot, -, -, -⟩)
  · exact hEntry
  · exact absurd hOwn hNot

theorem runTogether_foreign_iff (hLeft : a.name.package ≠ own) (hRight : b.name.package ≠ own) :
    RunTogether own a b ↔ ∃ middle,
      transform a.name.package = transform b.name.package ++ "_" ++ middle ∧
        transform b.name.entry = middle ++ "_" ++ transform a.name.entry := by
  refine ⟨?_, fun ⟨_, hPackage, hEntry⟩ => .foreign hLeft hRight hPackage hEntry⟩
  rintro (⟨hOwn, -, -⟩ | ⟨-, -, hPackage, hEntry⟩)
  · exact absurd hOwn hLeft
  · exact ⟨_, hPackage, hEntry⟩

/-- Of two attributes that differ in a symbol, the names are equal exactly when their parts
run together. -/
theorem indexSymbol_eq_iff (hDistinct : symbolPair a ≠ symbolPair b) :
    indexSymbol own owner a = indexSymbol own owner b ↔
      RunTogether own a b ∨ RunTogether own b a := by
  rw [indexSymbol_eq, indexSymbol_eq, String.append_right_inj]
  by_cases hA : a.name.package = own
  · by_cases hB : b.name.package = own
    · -- The symbols of the entries tell attributes of the own package apart.
      rw [indexSuffix_own hA, indexSuffix_own hB]
      have hPackage := congrArg transform (hA.trans hB.symm)
      exact iff_of_false (fun hEntry => hDistinct (Prod.ext hPackage hEntry))
        (not_or.2 ⟨not_runTogether_own hB, not_runTogether_own hA⟩)
    · rw [indexSuffix_own hA, indexSuffix_foreign hB, runTogether_own_iff hA hB,
        or_iff_left (not_runTogether_own hA)]
  · by_cases hB : b.name.package = own
    · rw [indexSuffix_foreign hA, indexSuffix_own hB, runTogether_own_iff hB hA,
        or_iff_right (not_runTogether_own hB), eq_comm]
    · have hApart : ¬ (transform a.name.package = transform b.name.package ∧
          transform a.name.entry = transform b.name.entry) :=
        fun hSame => hDistinct (Prod.ext hSame.1 hSame.2)
      rw [indexSuffix_foreign hA, indexSuffix_foreign hB, append_mark_eq_iff,
        or_iff_right hApart, runTogether_foreign_iff hA hB, runTogether_foreign_iff hB hA]

/-- What has the same symbol for its entry never runs together. -/
theorem RunTogether.entry_ne (hTogether : RunTogether own a b) :
    transform a.name.entry ≠ transform b.name.entry := by
  intro hSame
  have hMark : "_".length = 1 := rfl
  cases hTogether with
  | own _ _ hEntry =>
      have hLength := congrArg String.length (hSame.symm.trans hEntry)
      simp only [String.length_append, hMark] at hLength
      omega
  | foreign _ _ _ hEntry =>
      have hLength := congrArg String.length (hSame.trans hEntry)
      simp only [String.length_append, hMark] at hLength
      omega

/-- No index is named like its array. -/
theorem indexSymbol_ne (own owner : String) (a : Attribute) :
    indexSymbol own owner a ≠ transform owner := by
  intro hSame
  have hMark : "_".length = 1 := rfl
  have hLength := congrArg String.length hSame
  simp only [indexSymbol_eq, String.length_append, hMark] at hLength
  omega

/-! ## The names of an array -/

/-- The names of the indices of an array. -/
def indexSymbols (own owner : String) (attributes : List Attribute) : List String :=
  (arrange attributes).map (indexSymbol own owner)

/-- Where no two attributes have both symbols in common, the names of the indices are
distinct exactly when no two attributes run together. -/
theorem nodup_indexSymbols {attributes : List Attribute}
    (hPairs : (attributes.map symbolPair).Nodup) :
    (indexSymbols own owner attributes).Nodup ↔
      ∀ a ∈ attributes, ∀ b ∈ attributes, ¬ RunTogether own a b := by
  have hNodup : attributes.Nodup := .of_map symbolPair hPairs
  have hPairsNe : ∀ a ∈ attributes, ∀ b ∈ attributes, a ≠ b → symbolPair a ≠ symbolPair b :=
    fun a ha b hb hNe hSame => hNe (List.inj_on_of_nodup_map hPairs ha hb hSame)
  rw [indexSymbols, ((arrange_perm attributes).map _).nodup_iff,
    List.nodup_map_iff_inj_on hNodup]
  constructor
  · intro hInj a ha b hb hTogether
    have hNe : a ≠ b := fun hSame => hTogether.entry_ne (by rw [hSame])
    exact hNe (hInj a ha b hb ((indexSymbol_eq_iff (hPairsNe a ha b hb hNe)).2 (.inl hTogether)))
  · intro hApart a ha b hb hSame
    by_contra hNe
    rcases (indexSymbol_eq_iff (hPairsNe a ha b hb hNe)).1 hSame with hTogether | hTogether
    · exact hApart a ha b hb hTogether
    · exact hApart b hb a ha hTogether

end

section

variable (style : Style) {t : Table} {package plain : String} {g : Group} {e : Entry}

/-- The lines of the indices, by the names of the indices. -/
theorem indexLines_eq (own owner : String) (attributes : List Attribute) :
    indexLines style own owner 0 (arrange attributes) =
      (indexSymbols own owner attributes).zipIdx.map fun p =>
        constantLine style p.1 (toString p.2) := by
  rw [indexSymbols, List.zipIdx_map, List.map_map]
  rfl

/-- An entry that holds attributes gives an array and a constant for each index.  No index is
named like the array.  Where no two attributes have both symbols in common, the names of the
indices are distinct exactly when no two attributes run together, and attributes that share
the symbol of their entry have names of their own. -/
theorem index_names_nodup_iff {attributes : List Attribute} {more : List Resource.Value}
    (hOwner : e.BelongsTo t.package package plain) (hKind : g.kind = .styleable)
    (hValues : e.values = .styleable attributes :: more)
    (hNone : offence? t (some package) g e = none)
    (hPairs : (attributes.map symbolPair).Nodup) :
    String.join (runEntry style t (some package) g e).pieces =
        arrayText (transform plain)
            (String.join (itemPieces 0 ((arrange attributes).map Attribute.id))) ++
          String.join ((indexSymbols t.package plain attributes).zipIdx.map fun p =>
            constantLine style p.1 (toString p.2)) ∧
      ((transform plain :: indexSymbols t.package plain attributes).Nodup ↔
        ∀ a ∈ attributes, ∀ b ∈ attributes, ¬ RunTogether t.package a b) ∧
      ∀ a ∈ attributes, ∀ b ∈ attributes, a ≠ b →
        transform a.name.entry = transform b.name.entry →
          indexSymbol t.package plain a ≠ indexSymbol t.package plain b := by
  have hArray : transform plain ∉ indexSymbols t.package plain attributes := by
    rw [indexSymbols, List.mem_map]
    rintro ⟨a, -, hSame⟩
    exact indexSymbol_ne t.package plain a hSame
  refine ⟨?_, ?_, ?_⟩
  · rw [pieces_runEntry_array style hOwner hKind hValues hNone, join_pieces_array,
      indexLines_eq]
  · rw [List.nodup_cons, and_iff_right hArray]
    exact nodup_indexSymbols hPairs
  · intro a ha b hb hNe hEntry hSame
    have hPair : symbolPair a ≠ symbolPair b :=
      fun hPair => hNe (List.inj_on_of_nodup_map hPairs ha hb hPair)
    rcases (indexSymbol_eq_iff hPair).1 hSame with hTogether | hTogether
    · exact hTogether.entry_ne hEntry
    · exact hTogether.entry_ne hEntry.symm

end

/-- A styleable that holds the attributes. -/
def themeEntry (attributes : List Attribute) : Entry := ⟨"Theme", 0, [.styleable attributes]⟩

/-- The group of the one styleable. -/
def themeGroup (attributes : List Attribute) : Group := ⟨.styleable, 1, [themeEntry attributes]⟩

/-- The table of the one styleable. -/
def themeTable (attributes : List Attribute) : Table := ⟨"app", 0x7F, [themeGroup attributes]⟩

/-- An attribute of the own package of the table, and one of another package with the same
plain name. -/
def themeAttributes : List Attribute :=
  [⟨.ofWords 0x7F 1 0, ⟨"app", .attr, "x"⟩⟩, ⟨.ofWords 2 1 0, ⟨"lib", .attr, "x"⟩⟩]

theorem index_names_nodup_iff_themeAttributes :
    (themeEntry themeAttributes).BelongsTo "app" "app" "Theme" ∧
      offence? (themeTable themeAttributes) (some "app") (themeGroup themeAttributes)
        (themeEntry themeAttributes) = none ∧
      (themeAttributes.map symbolPair).Nodup ∧
      ((transform "Theme" :: indexSymbols "app" "Theme" themeAttributes).Nodup ↔
        ∀ a ∈ themeAttributes, ∀ b ∈ themeAttributes, ¬ RunTogether "app" a b) := by
  have hOwner : (themeEntry themeAttributes).BelongsTo "app" "app" "Theme" :=
    .inr ⟨by decide, by decide, by decide⟩
  have hNone : offence? (themeTable themeAttributes) (some "app") (themeGroup themeAttributes)
      (themeEntry themeAttributes) = none := by
    decide +kernel
  have hPairs : (themeAttributes.map symbolPair).Nodup := by decide
  have hNames := index_names_nodup_iff ⟨true⟩ (t := themeTable themeAttributes) hOwner rfl rfl
    hNone hPairs
  exact ⟨hOwner, hNone, hPairs, hNames.2.1⟩

/-- A styleable with an attribute of the own package that is named like the other package and
its attribute. -/
def crossedDocument : Json.Value :=
  .object [("package", .text "app"), ("id", .int 127), ("types", .list [
    .object [("type", .text "styleable"), ("id", .int 1), ("entries", .list [
      .object [("name", .text "Theme"), ("id", .int 0), ("values", .list [
        .object [("styleable", .list [
          .object [("id", .text "0x7f010000"), ("name", .text "app:attr/lib_x")],
          .object [("id", .text "0x02010000"), ("name", .text "lib:attr/x")]])]])]])]])]

/-- The attributes of `crossedDocument`. -/
def crossedAttributes : List Attribute :=
  [⟨.ofWords 0x7F 1 0, ⟨"app", .attr, "lib_x"⟩⟩, ⟨.ofWords 2 1 0, ⟨"lib", .attr, "x"⟩⟩]

/-- The constants for both indices are named alike, though the attributes have no symbol in
common. -/
theorem not_nodup_crossedAttributes :
    Table.ofDocument crossedDocument = .ok (themeTable crossedAttributes) ∧
      (crossedAttributes.map symbolPair).Nodup ∧
      String.join (runEntry ⟨true⟩ (themeTable crossedAttributes) (some "app")
          (themeGroup crossedAttributes) (themeEntry crossedAttributes)).pieces =
        "        public static final int[] Theme = \x7b\n" ++
        "            0x02010000, 0x7f010000\n" ++
        "        \x7d;\n" ++
        "        public static final int Theme_lib_x = 0;\n" ++
        "        public static final int Theme_lib_x = 1;\n" ∧
      ¬ (indexSymbols "app" "Theme" crossedAttributes).Nodup := by
  have hOwner : (themeEntry crossedAttributes).BelongsTo "app" "app" "Theme" :=
    .inr ⟨by decide, by decide, by decide⟩
  have hNone : offence? (themeTable crossedAttributes) (some "app") (themeGroup crossedAttributes)
      (themeEntry crossedAttributes) = none := by
    decide +kernel
  have hArranged : arrange crossedAttributes = crossedAttributes.reverse := by cbv
  refine ⟨rfl, by decide, ?_, ?_⟩
  · rw [pieces_runEntry_array ⟨true⟩ hOwner rfl rfl hNone, hArranged]
    decide +kernel
  · rw [indexSymbols, hArranged]
    decide +kernel

end RClass

end ResourceSymbols
