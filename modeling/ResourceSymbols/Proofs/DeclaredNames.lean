import ResourceSymbols.Proofs.Recovery

/-!
# Names that a class declares

A resource is named with letters, digits, underscores, points and hyphens.  In place of
the name a class declares its symbol, which a program can refer to.  Arrays are named
after their entries, and an index after its entry and its attribute, so these are symbols
as well.  The class of a kind is named by the tag of the kind as it stands, and of the
tags all but one are symbols.

## Main results

* `IsResourceName.transform` — the symbol of a resource name is one.
* `isSymbol_of_mem_names` — what is declared for an entry is named by symbols.
* `isSymbol_tag_iff` — the tag that is no symbol.
* `names_of_generate` — the names in the text of a class.
* `names_of_generate_privateDocument`, `not_isSymbol_privateDocument` — the names in one
  class, and the one that is no symbol.
-/

namespace ResourceSymbols

namespace Symbol

/-! ## Spelling -/

/-- The text has a first character of one sort, and all others are of another sort. -/
def Spelled (start rest : Char → Bool) (text : String) : Prop :=
  ∃ c cs, text.toList = c :: cs ∧ start c = true ∧ ∀ d ∈ cs, rest d = true

instance (start rest : Char → Bool) (text : String) : Decidable (Spelled start rest text) :=
  match hText : text.toList with
  | [] => isFalse fun ⟨_, _, hSome, _⟩ => by cases hText.symm.trans hSome
  | c :: cs => decidable_of_iff (start c = true ∧ cs.all rest = true)
      ⟨fun ⟨hFirst, hRest⟩ => ⟨c, cs, hText, hFirst, List.all_eq_true.1 hRest⟩,
        fun ⟨_, _, hSome, hFirst, hRest⟩ => by
          cases hText.symm.trans hSome
          exact ⟨hFirst, List.all_eq_true.2 hRest⟩⟩

/-- Whether `c` may start the name of a resource. -/
def isNameStart (c : Char) : Bool := c.isAlpha || c = '_'

/-- Whether `c` may stand in the name of a resource. -/
def isNameChar (c : Char) : Bool := c.isAlphanum || c = '_' || c = '.' || c = '-'

/-- The text can name a resource. -/
abbrev IsResourceName (name : String) : Prop := Spelled isNameStart isNameChar name

/-- Whether `c` may start a symbol. -/
def isSymbolStart (c : Char) : Bool := c.isAlpha || c = '_' || c = '$'

/-- Whether `c` may stand in a symbol. -/
def isSymbolChar (c : Char) : Bool := c.isAlphanum || c = '_' || c = '$'

/-- A program can refer to the text as a name. -/
abbrev IsSymbol (text : String) : Prop := Spelled isSymbolStart isSymbolChar text

section

variable {start rest : Char → Bool} {text name : String}

theorem Spelled.forall_mem (hStart : ∀ c, start c = true → rest c = true)
    (hText : Spelled start rest text) : ∀ c ∈ text.toList, rest c = true := by
  obtain ⟨c, cs, hChars, hFirst, hRest⟩ := hText
  rw [hChars, List.forall_mem_cons]
  exact ⟨hStart c hFirst, hRest⟩

theorem Spelled.append (hText : Spelled start rest text)
    (hMore : ∀ c ∈ name.toList, rest c = true) : Spelled start rest (text ++ name) := by
  obtain ⟨c, cs, hChars, hFirst, hRest⟩ := hText
  refine ⟨c, cs ++ name.toList, ?_, hFirst, ?_⟩
  · rw [String.toList_append, hChars, List.cons_append]
  · rw [List.forall_mem_append]
    exact ⟨hRest, hMore⟩

theorem isNameChar_of_isNameStart (c : Char) (hStart : isNameStart c = true) :
    isNameChar c = true := by
  simp only [isNameStart, isNameChar, Char.isAlphanum, Bool.or_eq_true, decide_eq_true_eq]
    at hStart ⊢
  tauto

theorem isSymbolChar_of_isSymbolStart (c : Char) (hStart : isSymbolStart c = true) :
    isSymbolChar c = true := by
  simp only [isSymbolStart, isSymbolChar, Char.isAlphanum, Bool.or_eq_true, decide_eq_true_eq]
    at hStart ⊢
  tauto

/-- The points and hyphens of a name are replaced, and nothing else in it is. -/
theorem isSymbolChar_replaceChar {c : Char} (hChar : isNameChar c = true) :
    isSymbolChar (replaceChar c) = true := by
  unfold replaceChar
  by_cases hMark : c = '.' ∨ c = '-'
  · rw [if_pos hMark]
    decide
  · rw [if_neg hMark]
    simp only [isNameChar, isSymbolChar, Bool.or_eq_true, decide_eq_true_eq] at hChar ⊢
    tauto

theorem isSymbolStart_replaceChar {c : Char} (hStart : isNameStart c = true) :
    isSymbolStart (replaceChar c) = true := by
  have hMark : ¬ (c = '.' ∨ c = '-') := by
    rintro (rfl | rfl)
    · exact absurd hStart (by decide)
    · exact absurd hStart (by decide)
  rw [replaceChar, if_neg hMark]
  simp only [isNameStart, isSymbolStart, Bool.or_eq_true, decide_eq_true_eq] at hStart ⊢
  tauto

/-- The symbol of a resource name is a symbol. -/
theorem IsResourceName.transform (hName : IsResourceName name) :
    IsSymbol (transform name) := by
  obtain ⟨c, cs, hChars, hFirst, hRest⟩ := hName
  refine ⟨replaceChar c, cs.map replaceChar, ?_, isSymbolStart_replaceChar hFirst, ?_⟩
  · rw [Symbol.transform, String.toList_ofList, hChars, List.map_cons]
  · rw [List.forall_mem_map]
    exact fun d hd => isSymbolChar_replaceChar (hRest d hd)

theorem IsResourceName.not_mem_newline (hName : IsResourceName name) : '\n' ∉ name.toList :=
  fun hMem => absurd (hName.forall_mem isNameChar_of_isNameStart _ hMem) (by decide)

end

end Symbol

namespace RClass

open Resource (Attribute Entry Group Kind Table)
open ResourceSymbols.Symbol (IsResourceName IsSymbol)

/-! ## Declared names -/

/-- The names that are declared: that of the constant, or that of the array and those of its
indices. -/
def Declared.names : Declared → List String
  | .constant symbol _ => [symbol]
  | .array symbol _ indices => symbol :: indices.map Prod.fst

/-- The plain name of the entry, and the package and the name of each of its attributes, can
name resources. -/
structure WellNamed (e : Entry) : Prop where
  name : IsResourceName e.plainName
  attributes : ∀ held ∈ e.values, ∀ a ∈ heldAttributes held,
    IsResourceName a.name.package ∧ IsResourceName a.name.entry

instance (e : Entry) : Decidable (WellNamed e) :=
  decidable_of_iff (IsResourceName e.plainName ∧ ∀ held ∈ e.values,
    ∀ a ∈ heldAttributes held, IsResourceName a.name.package ∧ IsResourceName a.name.entry)
    ⟨fun h => ⟨h.1, h.2⟩, fun h => ⟨h.name, h.attributes⟩⟩

theorem WellNamed.oneLineSymbols {e : Entry} (hNamed : WellNamed e) : OneLineSymbols e where
  name := hNamed.name.not_mem_newline
  attributes held hHeld a ha :=
    have hParts := hNamed.attributes held hHeld a ha
    ⟨hParts.1.not_mem_newline, hParts.2.not_mem_newline⟩

/-- The symbols of the owner, of the package and of the attribute make a symbol. -/
theorem isSymbol_indexSymbol {own owner : String} {a : Attribute}
    (hOwner : IsResourceName owner) (hPackage : IsResourceName a.name.package)
    (hEntry : IsResourceName a.name.entry) : IsSymbol (indexSymbol own owner a) := by
  have hChars : ∀ {name}, IsResourceName name →
      ∀ c ∈ (Symbol.transform name).toList, Symbol.isSymbolChar c = true :=
    fun hName => hName.transform.forall_mem Symbol.isSymbolChar_of_isSymbolStart
  have hMark : ∀ c ∈ "_".toList, Symbol.isSymbolChar c = true :=
    List.all_eq_true.1 rfl
  unfold indexSymbol
  refine ((hOwner.transform.append hMark).append ?_).append (hChars hEntry)
  split
  · rw [String.toList_append, List.forall_mem_append]
    exact ⟨hChars hPackage, hMark⟩
  · exact List.all_eq_true.1 rfl

/-- What is declared for an entry is named by symbols. -/
theorem isSymbol_of_mem_names {t : Table} {g : Group} {e : Entry} (hNamed : WellNamed e)
    {declared : Declared} (hDeclared : declared ∈ declaredOf t g e) {name : String}
    (hName : name ∈ declared.names) : IsSymbol name := by
  unfold declaredOf at hDeclared
  split at hDeclared
  · split at hDeclared
    · rename_i attributes more hValues
      obtain rfl := List.mem_singleton.1 hDeclared
      simp only [Declared.names, List.map_map, List.mem_cons, List.mem_map] at hName
      rcases hName with rfl | ⟨⟨a, index⟩, hMem, rfl⟩
      · exact hNamed.name.transform
      · have hHeld : a ∈ attributes :=
          (arrange_perm attributes).mem_iff.1 (List.fst_mem_of_mem_zipIdx hMem)
        obtain ⟨hPackage, hEntry⟩ :=
          hNamed.attributes (.styleable attributes) (by simp [hValues]) a hHeld
        exact isSymbol_indexSymbol hNamed.name hPackage hEntry
    · cases hDeclared
  · obtain rfl := List.mem_singleton.1 hDeclared
    obtain rfl := List.mem_singleton.1 hName
    exact hNamed.name.transform

/-- The tags are symbols, but for one that starts with a caret and holds a hyphen. -/
theorem isSymbol_tag_iff (kind : Kind) : IsSymbol kind.tag ↔ kind.tag ≠ Kind.attrPrivate.tag := by
  cases kind <;> decide

/-! ## Names in the text of a class -/

/-- After the header, the text of a complete class tells the classes of the kinds and what
each of them declares.  All that they declare is named by symbols, and so are the classes,
but for that of the private attributes. -/
theorem names_of_generate {style : Style} {t : Table} {package : String} {sink : Sink}
    {s : Summary} (hNamed : ∀ g ∈ t.groups, ∀ e ∈ g.entries, WellNamed e)
    (hComplete : (generate style t (.text package) sink).outcome = .ok (.complete s)) :
    ∃ body, (generate style t (.text package) sink).written = headerText package ++ body ∧
      (read body).groups = declarations t package ∧
      ∀ group ∈ (read body).groups,
        (IsSymbol group.1 ↔ group.1 ≠ Kind.attrPrivate.tag) ∧
          ∀ declared ∈ group.2, ∀ name ∈ declared.names, IsSymbol name := by
  obtain ⟨hSink, hNone, -⟩ := complete_of_outcome hComplete
  have hSymbols : ∀ g ∈ t.groups, ∀ e ∈ g.entries, OneLineSymbols e :=
    fun g hg e he => (hNamed g hg e he).oneLineSymbols
  have hWritten : (generate style t (.text package) sink).written =
      headerText package ++ bodyText style t (some package) := by
    rw [written_generate hSink, join_pieces_run style package hNone]
  have hRead : (read (bodyText style t (some package))).groups = declarations t package :=
    congrArg Reading.groups (read_bodyText style hSymbols hNone)
  refine ⟨_, hWritten, hRead, ?_⟩
  rw [hRead]
  intro group hGroup
  obtain ⟨g, hg, rfl⟩ := List.mem_map.1 hGroup
  refine ⟨isSymbol_tag_iff g.kind, ?_⟩
  intro declared hDeclared name hName
  obtain ⟨e, he, hOf⟩ := List.mem_flatMap.1 hDeclared
  exact isSymbol_of_mem_names (hNamed g hg e (List.mem_of_mem_filter he)) hOf hName

/-- A document with a private attribute, and a styleable that holds it and another one. -/
def privateDocument : Json.Value :=
  .object [("package", .text "app"), ("id", .int 127), ("types", .list [
    .object [("type", .text "^attr-private"), ("id", .int 1), ("entries", .list [
      .object [("name", .text "text.size"), ("id", .int 0)]])],
    .object [("type", .text "styleable"), ("id", .int 2), ("entries", .list [
      .object [("name", .text "My-View"), ("id", .int 0), ("values", .list [
        .object [("styleable", .list [
          .object [("id", .text "0x7f010000"), ("name", .text "app:text.size")],
          .object [("id", .text "0x01010000"), ("name", .text "and-roid:x")]])]])]])]])]

/-- The table of `privateDocument`. -/
def privateTable : Table :=
  { package := "app"
    number := 0x7F
    groups := [
      { kind := .attrPrivate
        number := 1
        entries := [⟨"text.size", 0, []⟩] },
      { kind := .styleable
        number := 2
        entries := [⟨"My-View", 0, [.styleable [
          ⟨.ofWords 0x7F 1 0, ⟨"app", .attr, "text.size"⟩⟩,
          ⟨.ofWords 1 1 0, ⟨"and-roid", .attr, "x"⟩⟩]]⟩] }] }

theorem names_of_generate_privateDocument :
    (∀ g ∈ privateTable.groups, ∀ e ∈ g.entries, WellNamed e) ∧
      (generate ⟨true⟩ privateTable (.text "app") {}).outcome =
        .ok (.complete (summaryOf ⟨true⟩ privateTable "app")) ∧
      ∃ body, (generate ⟨true⟩ privateTable (.text "app") {}).written =
          headerText "app" ++ body ∧
        (read body).groups = declarations privateTable "app" ∧
        ∀ group ∈ (read body).groups,
          (IsSymbol group.1 ↔ group.1 ≠ Kind.attrPrivate.tag) ∧
            ∀ declared ∈ group.2, ∀ name ∈ declared.names, IsSymbol name := by
  have hNamed : ∀ g ∈ privateTable.groups, ∀ e ∈ g.entries, WellNamed e := by decide +kernel
  have hComplete : (generate ⟨true⟩ privateTable (.text "app") {}).outcome =
      .ok (.complete (summaryOf ⟨true⟩ privateTable "app")) := by
    have hNone : (run ⟨true⟩ privateTable (some "app") "app").offence = none := by
      decide +kernel
    rw [outcome_generate (takesAll_of_unlimited rfl rfl), hNone]
  exact ⟨hNamed, hComplete, names_of_generate hNamed hComplete⟩

/-- The class of the private attributes is opened under a name that is no symbol. -/
theorem not_isSymbol_privateDocument :
    Table.ofDocument privateDocument = .ok privateTable ∧
      (∀ g ∈ privateTable.groups, ∀ e ∈ g.entries, WellNamed e) ∧
      (generate ⟨true⟩ privateTable (.text "app") {}).outcome =
        .ok (.complete (summaryOf ⟨true⟩ privateTable "app")) ∧
      (∃ rest, (generate ⟨true⟩ privateTable (.text "app") {}).written =
        headerText "app" ++ (openingText ++ (groupOpeningText "^attr-private" ++ rest))) ∧
      ¬ IsSymbol "^attr-private" := by
  have hNone : (run ⟨true⟩ privateTable (some "app") "app").offence = none := by decide +kernel
  obtain ⟨pieces, hPieces⟩ : ∃ pieces, (run ⟨true⟩ privateTable (some "app") "app").pieces =
      headerText "app" :: openingText :: groupOpeningText "^attr-private" :: pieces := ⟨_, rfl⟩
  refine ⟨rfl, by decide +kernel, ?_, ⟨String.join pieces, ?_⟩, by decide⟩
  · rw [outcome_generate (takesAll_of_unlimited rfl rfl), hNone]
  · rw [written_generate (takesAll_of_unlimited rfl rfl), hPieces]
    simp only [String.join_cons]

end RClass

end ResourceSymbols
