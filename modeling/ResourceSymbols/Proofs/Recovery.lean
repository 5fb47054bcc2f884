import ResourceSymbols.Proofs.Arrangement
import ResourceSymbols.Proofs.ClassReader

/-!
# The text of a class tells what is declared

What a class declares is told by the table: for each group its tag, and for each
entry of the package a constant, or an array with its indices.  The reader finds
all of it in the text, whatever the names hold but a line break.  So two classes
with the same text declare the same, for the same package.

## Main results

* `read_runEntry` — what the reader finds for one entry.
* `read_bodyText`, `read_run` — the reader finds what is declared.
* `declarations_determined` — classes with the same text declare the same.
-/

namespace ResourceSymbols.RClass

open Resource (Attribute Entry Group Id Kind Table)

/-! ## What is declared -/

/-- What is declared for an entry of the package under way. -/
def declaredOf (t : Table) (g : Group) (e : Entry) : List Declared :=
  if g.kind = .styleable then
    match e.values with
    | .styleable attributes :: _ =>
        [.array (Symbol.transform e.plainName)
          ((arrange attributes).map fun a => (a.id.number : Int))
          ((arrange attributes).zipIdx.map fun p =>
            (indexSymbol t.package e.plainName p.1, p.2))]
    | _ => []
  else
    [.constant (Symbol.transform e.plainName) (packed t.number g.number e.number)]

/-- What the class of a package declares for the entries of a group. -/
def members (t : Table) (package : String) (g : Group) : List Declared :=
  (g.entries.filter fun e => e.origin t.package = package).flatMap (declaredOf t g)

/-- What the class of a package declares, group by group. -/
def declarations (t : Table) (package : String) : List (String × List Declared) :=
  t.groups.map fun g => (g.kind.tag, members t package g)

/-- The attributes that a value holds. -/
def heldAttributes : Resource.Value → List Attribute
  | .item _ => []
  | .styleable attributes => attributes

/-- No name that an entry brings into a class holds a line break. -/
structure OneLine (e : Entry) : Prop where
  name : '\n' ∉ e.name.toList
  attributes : ∀ held ∈ e.values, ∀ a ∈ heldAttributes held,
    '\n' ∉ a.name.package.toList ∧ '\n' ∉ a.name.entry.toList

instance (e : Entry) : Decidable (OneLine e) :=
  decidable_of_iff ('\n' ∉ e.name.toList ∧ ∀ held ∈ e.values,
    ∀ a ∈ heldAttributes held,
      '\n' ∉ a.name.package.toList ∧ '\n' ∉ a.name.entry.toList)
    ⟨fun h => ⟨h.1, h.2⟩, fun h => ⟨h.name, h.attributes⟩⟩

/-! ## Names on one line -/

section

variable {c : Char}

theorem not_mem_transform (hMark : c ≠ '_') {name : String} (hName : c ∉ name.toList) :
    c ∉ (Symbol.transform name).toList := by
  rw [Symbol.transform, String.toList_ofList, List.mem_map]
  rintro ⟨d, hd, hChar⟩
  unfold Symbol.replaceChar at hChar
  split at hChar
  · exact hMark hChar.symm
  · exact hName (hChar ▸ hd)

theorem not_mem_plainName {e : Entry} (hName : c ∉ e.name.toList) : c ∉ e.plainName.toList := by
  unfold Entry.plainName
  cases hMangled : Resource.unmangle? e.name with
  | none => exact hName
  | some u =>
      have hParts := (Resource.unmangle?_eq_some_iff.1 hMangled).1
      rw [hParts] at hName
      intro hMem
      apply hName
      simp [Resource.mangle, hMem]

/-- No symbol that an entry brings into a class holds the character.  The package that a
mangled name starts with is part of no symbol. -/
structure SymbolsWithout (c : Char) (e : Entry) : Prop where
  name : c ∉ e.plainName.toList
  attributes : ∀ held ∈ e.values, ∀ a ∈ heldAttributes held,
    c ∉ a.name.package.toList ∧ c ∉ a.name.entry.toList

instance (e : Entry) : Decidable (SymbolsWithout c e) :=
  decidable_of_iff (c ∉ e.plainName.toList ∧ ∀ held ∈ e.values, ∀ a ∈ heldAttributes held,
    c ∉ a.name.package.toList ∧ c ∉ a.name.entry.toList)
    ⟨fun h => ⟨h.1, h.2⟩, fun h => ⟨h.name, h.attributes⟩⟩

theorem not_mem_indexSymbol (hMark : c ≠ '_') {own owner : String} {a : Attribute}
    (hOwner : c ∉ owner.toList) (hPackage : c ∉ a.name.package.toList)
    (hEntry : c ∉ a.name.entry.toList) : c ∉ (indexSymbol own owner a).toList := by
  have hOwner' := not_mem_transform hMark hOwner
  have hPackage' := not_mem_transform hMark hPackage
  have hEntry' := not_mem_transform hMark hEntry
  have hJoint : c ∉ "_".toList := by
    rw [show "_".toList = ['_'] from rfl, List.mem_singleton]
    exact hMark
  unfold indexSymbol
  simp only [String.toList_append, List.mem_append, not_or]
  refine ⟨⟨⟨hOwner', hJoint⟩, ?_⟩, hEntry'⟩
  split
  · rw [String.toList_append, List.mem_append, not_or]
    exact ⟨hPackage', hJoint⟩
  · exact List.not_mem_nil

end

/-- No symbol that an entry brings into a class holds a line break. -/
abbrev OneLineSymbols (e : Entry) : Prop := SymbolsWithout '\n' e

theorem newline_not_mem_transform {name : String} (hName : '\n' ∉ name.toList) :
    '\n' ∉ (Symbol.transform name).toList := not_mem_transform (by decide) hName

theorem OneLine.symbols {e : Entry} (hOneLine : OneLine e) : OneLineSymbols e :=
  ⟨not_mem_plainName hOneLine.name, hOneLine.attributes⟩

theorem newline_not_mem_tag (kind : Kind) : '\n' ∉ kind.tag.toList := by
  cases kind <;> decide

/-- An index is printed in decimal digits. -/
theorem isDigit_of_mem_toString {n : Nat} {c : Char} (hc : c ∈ (toString n).toList) :
    c.isDigit = true := by
  rw [Nat.toString_eq_repr, Nat.toList_repr] at hc
  exact Nat.isDigit_of_mem_toDigits (by decide) (by decide) hc

theorem not_mem_toString (n : Nat) {c : Char} (hDigit : c.isDigit = false) :
    c ∉ (toString n).toList := by
  intro hc
  rw [isDigit_of_mem_toString hc] at hDigit
  cases hDigit

/-! ## Reading entries -/

/-- The constant of an index reads as the index. -/
theorem index_toString (symbol : String) (n : Nat) :
    Reading.index (symbol, toString n) = (symbol, n) := by
  rw [Reading.index, Nat.toString_eq_repr, Nat.toList_repr,
    Nat.ofDigitChars_ten_toDigits]

/-- The constant of an entry reads as a member of the group. -/
theorem member_text (symbol : String) (id : Id) :
    Reading.member (symbol, id.text) = .constant symbol (id.number : Int) := by
  rw [Reading.member, Number.Literal.int?_text]
  rfl

/-- The lines of the indices are kept until the array comes. -/
theorem read_indexLines (style : Style) (own : String) {owner : String} (index : Nat)
    {attributes : List Attribute} (hOwner : '\n' ∉ owner.toList)
    (hNames : ∀ a ∈ attributes,
      '\n' ∉ a.name.package.toList ∧ '\n' ∉ a.name.entry.toList) (rest : String) :
    read (String.join (indexLines style own owner index attributes) ++ rest) =
      { read rest with
        constants := ((attributes.zipIdx index).map fun p =>
          (indexSymbol own owner p.1, toString p.2)) ++ (read rest).constants } := by
  induction attributes generalizing index with
  | nil =>
      show read (String.join [] ++ rest) = _
      rw [String.join_nil, String.empty_append]
      rfl
  | cons a as ih =>
      obtain ⟨hPackage, hEntry⟩ := hNames a List.mem_cons_self
      have hLines : indexLines style own owner index (a :: as) =
          constantLine style (indexSymbol own owner a) (toString index) ::
            indexLines style own owner (index + 1) as := rfl
      rw [hLines, String.join_cons, String.append_assoc,
        read_constantLine style (not_mem_indexSymbol (by decide) hOwner hPackage hEntry)
          (not_mem_toString index (by decide)) (not_mem_toString index (by decide)),
        ih (index + 1) fun a' ha' => hNames a' (List.mem_cons_of_mem _ ha')]
      rfl

/-- What was read of a group on the way: the groups after it, and what its entries
declare.  A group of styleables has no constants of its own, and any other group
has no arrays. -/
structure Reading.Holds (r : Reading) (kind : Kind)
    (groups : List (String × List Declared)) (declared : List Declared) : Prop where
  package : r.package = ""
  groups : r.groups = groups
  body : r.body = []
  declared : r.constants.map Reading.member ++ r.arrays = declared
  noConstants : kind = .styleable → r.constants = []
  noArrays : kind ≠ .styleable → r.arrays = []

section

variable (style : Style) {t : Table} {package : String} {g : Group}
  {groups : List (String × List Declared)} {declared : List Declared} {rest : String}

/-- A constant is the first thing that its group declares. -/
theorem holds_constant {name : String} (hName : '\n' ∉ name.toList) (id : Id)
    (hKind : g.kind ≠ .styleable) (hRest : (read rest).Holds g.kind groups declared) :
    (read (String.join ((Fate.constant name id).pieces style t.package) ++
      rest)).Holds g.kind groups
        (.constant (Symbol.transform name) (id.number : Int) :: declared) := by
  have hBlank : ' ' ∉ id.text.toList :=
    Number.Literal.not_mem_text (by decide) (by decide) (by decide) id
  have hRead := read_constantLine style (newline_not_mem_transform hName)
    (newline_not_mem_text id) hBlank rest
  rw [Fate.pieces, String.join_cons, String.join_nil, String.append_empty]
  show (read (constantLine style (Symbol.transform name) id.text ++ rest)).Holds
    g.kind groups _
  rw [hRead]
  refine
    { package := hRest.package
      groups := hRest.groups
      body := hRest.body
      declared := ?_
      noConstants := fun hStyleable => absurd hStyleable hKind
      noArrays := hRest.noArrays }
  rw [List.map_cons, member_text, List.cons_append, hRest.declared]

/-- An array with its indices is the first thing that its group declares. -/
theorem holds_array {name : String} (hName : '\n' ∉ name.toList)
    {attributes : List Attribute} (hNames : ∀ a ∈ attributes,
      '\n' ∉ a.name.package.toList ∧ '\n' ∉ a.name.entry.toList)
    (hKind : g.kind = .styleable) (hRest : (read rest).Holds g.kind groups declared) :
    (read (String.join ((Fate.array name attributes).pieces style t.package) ++
      rest)).Holds g.kind groups
        (.array (Symbol.transform name) (attributes.map fun a => (a.id.number : Int))
          (attributes.zipIdx.map fun p => (indexSymbol t.package name p.1, p.2)) ::
            declared) := by
  have hIndices := read_indexLines style t.package 0 hName hNames rest
  rw [join_pieces_array, String.append_assoc,
    read_arrayText (newline_not_mem_transform hName), hIndices,
    hRest.noConstants hKind, List.append_nil, List.map_map, List.map_map]
  -- What the array took as its indices was all that no array had yet.
  refine
    { package := hRest.package
      groups := hRest.groups
      body := rfl
      declared := ?_
      noConstants := fun _ => rfl
      noArrays := fun hOther => absurd hKind hOther }
  have hDeclared := hRest.declared
  rw [hRest.noConstants hKind] at hDeclared
  show [] ++ _ :: (read rest).arrays = _
  rw [List.nil_append, ← hDeclared]
  simp only [Function.comp_def, index_toString, List.map_nil, List.nil_append]

/-- An entry adds what it declares to what its group declares. -/
theorem read_runEntry {e : Entry} (hSymbols : OneLineSymbols e)
    (hNone : offence? t (some package) g e = none)
    (hRest : (read rest).Holds g.kind groups declared) :
    (read (String.join (runEntry style t (some package) g e).pieces ++ rest)).Holds
      g.kind groups
      ((if e.origin t.package = package then declaredOf t g e else []) ++ declared) := by
  obtain ⟨id, hId, hPieces⟩ := pieces_runEntry style t hNone
  have hName := hSymbols.name
  have hSilent : (read (String.join [] ++ rest)).Holds g.kind groups
      ([] ++ declared) := by
    rw [String.join_nil, String.empty_append]
    exact hRest
  rw [hPieces]
  by_cases hOrigin : e.origin t.package = package
  · rw [if_pos hOrigin, if_pos hOrigin]
    by_cases hKind : g.kind = .styleable
    · cases hValues : e.values with
      | nil => simpa [declaration, declaredOf, hKind, hValues, Fate.pieces] using hSilent
      | cons held more =>
          cases held with
          | item data =>
              simpa [declaration, declaredOf, hKind, hValues, Fate.pieces] using hSilent
          | styleable attributes =>
              have hNames : ∀ a ∈ arrange attributes,
                  '\n' ∉ a.name.package.toList ∧ '\n' ∉ a.name.entry.toList :=
                fun a ha => hSymbols.attributes (.styleable attributes)
                  (by simp [hValues]) a ((arrange_perm attributes).mem_iff.1 ha)
              have hArray := holds_array style (t := t) hName hNames hKind hRest
              simpa [declaration, declaredOf, hKind, hValues] using hArray
    · have hConstant := holds_constant style (t := t) hName id hKind hRest
      rw [number_of_ofParts hId] at hConstant
      rw [declaration_of_ne hKind, declaredOf, if_neg hKind]
      exact hConstant
  · rw [if_neg hOrigin, if_neg hOrigin]
    exact hSilent

/-- The entries of a group add up, in their order. -/
theorem read_entries {es : List Entry} (hSymbols : ∀ e ∈ es, OneLineSymbols e)
    (hNone : ∀ e ∈ es, offence? t (some package) g e = none)
    (hRest : (read rest).Holds g.kind groups []) :
    (read (String.join (es.flatMap fun e =>
      (runEntry style t (some package) g e).pieces) ++ rest)).Holds g.kind groups
        ((es.filter fun e => e.origin t.package = package).flatMap
          (declaredOf t g)) := by
  induction es with
  | nil =>
      rw [List.flatMap_nil, String.join_nil, String.empty_append]
      exact hRest
  | cons e es ih =>
      have hTail := ih (fun d hd => hSymbols d (List.mem_cons_of_mem _ hd))
        fun d hd => hNone d (List.mem_cons_of_mem _ hd)
      have hHead := read_runEntry style (hSymbols e List.mem_cons_self)
        (hNone e List.mem_cons_self) hTail
      rw [List.flatMap_cons, String.join_append, String.append_assoc]
      by_cases hOrigin : e.origin t.package = package
      · simpa [hOrigin] using hHead
      · simpa [hOrigin] using hHead

/-- A group is read with all that its entries declare. -/
theorem read_groupPieces (hSymbols : ∀ e ∈ g.entries, OneLineSymbols e)
    (hNone : ∀ e ∈ g.entries, offence? t (some package) g e = none)
    (hRest : read rest = { groups := groups }) :
    read (String.join (groupPieces style t (some package) g) ++ rest) =
      { groups := (g.kind.tag, members t package g) :: groups } := by
  have hClosing : (read (groupClosingText ++ rest)).Holds g.kind groups [] := by
    rw [read_groupClosingText, hRest]
    exact ⟨rfl, rfl, rfl, rfl, fun _ => rfl, fun _ => rfl⟩
  have hEntries := read_entries style hSymbols hNone hClosing
  have hText : String.join (groupPieces style t (some package) g) ++ rest =
      groupOpeningText g.kind.tag ++
        (String.join (g.entries.flatMap fun e =>
          (runEntry style t (some package) g e).pieces) ++
            (groupClosingText ++ rest)) := by
    rw [groupPieces, List.cons_append, String.join_cons, String.join_append,
      String.join_cons, String.join_nil, String.append_empty]
    simp only [String.append_assoc]
  rw [hText, read_groupOpeningText (newline_not_mem_tag g.kind), Reading.step,
    hEntries.package, hEntries.groups, hEntries.declared]
  rfl

end

section

variable (style : Style) {t : Table} {package : String}

/-- The groups are read in their order. -/
theorem read_groups {gs : List Group} {rest : String}
    (hSymbols : ∀ g ∈ gs, ∀ e ∈ g.entries, OneLineSymbols e)
    (hNone : ∀ g ∈ gs, ∀ e ∈ g.entries, offence? t (some package) g e = none)
    (hRest : read rest = {}) :
    read (String.join (gs.flatMap (groupPieces style t (some package))) ++ rest) =
      { groups := gs.map fun g => (g.kind.tag, members t package g) } := by
  induction gs with
  | nil =>
      rw [List.flatMap_nil, String.join_nil, String.empty_append]
      exact hRest
  | cons g gs ih =>
      have hTail := ih (fun h hh => hSymbols h (List.mem_cons_of_mem _ hh))
        fun h hh => hNone h (List.mem_cons_of_mem _ hh)
      rw [List.flatMap_cons, String.join_append, String.append_assoc, List.map_cons]
      exact read_groupPieces style (hSymbols g List.mem_cons_self)
        (hNone g List.mem_cons_self) hTail

/-- The text of a class after its header. -/
def bodyText (style : Style) (t : Table) (package : Option String) : String :=
  openingText ++ (String.join (t.groups.flatMap (groupPieces style t package)) ++ closingText)

theorem join_pieces_run {package : Option String} (label : String)
    (hNone : (run style t package label).offence = none) :
    String.join (run style t package label).pieces =
      headerText label ++ bodyText style t package := by
  have hEntries := (offence_run_eq_none_iff style t package label).1 hNone
  rw [pieces_run style t package label hEntries, bodyText, List.append_assoc,
    List.cons_append, List.cons_append, List.nil_append, String.join_cons,
    String.join_cons, String.join_append, String.join_cons, String.join_nil,
    String.append_empty]

/-- The reader finds all that is declared after the header. -/
theorem read_bodyText {label : String}
    (hSymbols : ∀ g ∈ t.groups, ∀ e ∈ g.entries, OneLineSymbols e)
    (hNone : (run style t (some package) label).offence = none) :
    read (bodyText style t (some package)) = { groups := declarations t package } := by
  have hEntries := (offence_run_eq_none_iff style t (some package) label).1 hNone
  have hClosing : read closingText = {} := by
    have hLine := read_line "\x7d" (by decide) ""
    exact hLine
  have hGroups := read_groups style hSymbols hEntries hClosing
  have hOpening : ∀ rest, read (openingText ++ rest) = { read rest with body := [] } :=
    fun rest => read_line "public final class R \x7b" (by decide) rest
  rw [bodyText, hOpening, hGroups]
  rfl

/-- The reader finds the package and all that is declared for it. -/
theorem read_run (hPackage : '\n' ∉ package.toList)
    (hOneLine : ∀ g ∈ t.groups, ∀ e ∈ g.entries, OneLine e)
    (hNone : (run style t (some package) package).offence = none) :
    read (String.join (run style t (some package) package).pieces) =
      { package := package, groups := declarations t package } := by
  have hBody := read_bodyText style (fun g hg e he => (hOneLine g hg e he).symbols) hNone
  rw [join_pieces_run style package hNone, read_headerText hPackage, hBody]

/-- The text of a complete class tells the package and all that is declared. -/
theorem read_generate {sink : Sink} {s : Summary} (hPackage : '\n' ∉ package.toList)
    (hOneLine : ∀ g ∈ t.groups, ∀ e ∈ g.entries, OneLine e)
    (hComplete : (generate style t (.text package) sink).outcome =
      .ok (.complete s)) :
    read (generate style t (.text package) sink).written =
      { package := package, groups := declarations t package } := by
  obtain ⟨hSink, hNone, -⟩ := complete_of_outcome hComplete
  rw [written_generate hSink]
  exact read_run style hPackage hOneLine hNone

end

/-- Classes with the same text are of the same package and declare the same. -/
theorem declarations_determined {style₁ style₂ : Style} {t₁ t₂ : Table}
    {package₁ package₂ : String} {sink₁ sink₂ : Sink} {s₁ s₂ : Summary}
    (hPackage₁ : '\n' ∉ package₁.toList) (hPackage₂ : '\n' ∉ package₂.toList)
    (hOneLine₁ : ∀ g ∈ t₁.groups, ∀ e ∈ g.entries, OneLine e)
    (hOneLine₂ : ∀ g ∈ t₂.groups, ∀ e ∈ g.entries, OneLine e)
    (hComplete₁ : (generate style₁ t₁ (.text package₁) sink₁).outcome =
      .ok (.complete s₁))
    (hComplete₂ : (generate style₂ t₂ (.text package₂) sink₂).outcome =
      .ok (.complete s₂))
    (hText : (generate style₁ t₁ (.text package₁) sink₁).written =
      (generate style₂ t₂ (.text package₂) sink₂).written) :
    package₁ = package₂ ∧ declarations t₁ package₁ = declarations t₂ package₂ := by
  have hRead₁ := read_generate style₁ hPackage₁ hOneLine₁ hComplete₁
  have hRead₂ := read_generate style₂ hPackage₂ hOneLine₂ hComplete₂
  rw [hText, hRead₂] at hRead₁
  exact ⟨(congrArg Reading.package hRead₁).symm, (congrArg Reading.groups hRead₁).symm⟩

/-- A table whose names hold points, blanks, braces and what looks like the end of a
line, with an entry of another package and a styleable without attributes. -/
def dottedTable : Table :=
  { package := "app"
    number := 0x7F
    groups := [
      { kind := .string
        number := 1
        entries := [⟨"a.b = \x7b\x7b c \x7d\x7d;", 0, []⟩, ⟨"lib$class", 1, []⟩] },
      { kind := .styleable
        number := 2
        entries := [
          ⟨"My.View", 0, [.styleable [⟨.ofWords 1 1 0, ⟨"android", .attr, "text.size"⟩⟩]]⟩,
          ⟨"Box", 1, [.item .null]⟩] }] }

/-- The same with hyphens for points, and without the entries that give nothing. -/
def hyphenTable : Table :=
  { package := "app"
    number := 0x7F
    groups := [
      { kind := .string
        number := 1
        entries := [⟨"a-b = \x7b\x7b c \x7d\x7d;", 0, []⟩] },
      { kind := .styleable
        number := 2
        entries := [⟨"My-View", 0,
          [.styleable [⟨.ofWords 1 1 0, ⟨"android", .attr, "text-size"⟩⟩]]⟩] }] }

theorem declarations_determined_dottedTable :
    (generate ⟨true⟩ dottedTable (.text "app") {}).outcome =
        .ok (.complete (summaryOf ⟨true⟩ dottedTable "app")) ∧
      (generate ⟨true⟩ hyphenTable (.text "app") {}).outcome =
        .ok (.complete (summaryOf ⟨true⟩ hyphenTable "app")) ∧
      (generate ⟨true⟩ dottedTable (.text "app") {}).written =
        (generate ⟨true⟩ hyphenTable (.text "app") {}).written ∧
      declarations dottedTable "app" = declarations hyphenTable "app" := by
  have hDotted : (generate ⟨true⟩ dottedTable (.text "app") {}).outcome =
      .ok (.complete (summaryOf ⟨true⟩ dottedTable "app")) := by
    have hNone : (run ⟨true⟩ dottedTable (some "app") "app").offence = none := by
      decide +kernel
    rw [outcome_generate (takesAll_of_unlimited rfl rfl), hNone]
  have hHyphen : (generate ⟨true⟩ hyphenTable (.text "app") {}).outcome =
      .ok (.complete (summaryOf ⟨true⟩ hyphenTable "app")) := by
    have hNone : (run ⟨true⟩ hyphenTable (some "app") "app").offence = none := by
      decide +kernel
    rw [outcome_generate (takesAll_of_unlimited rfl rfl), hNone]
  have hText : (generate ⟨true⟩ dottedTable (.text "app") {}).written =
      (generate ⟨true⟩ hyphenTable (.text "app") {}).written := by
    have hPieces : (run ⟨true⟩ dottedTable (some "app") "app").pieces =
        (run ⟨true⟩ hyphenTable (some "app") "app").pieces := by
      decide +kernel
    rw [written_generate (takesAll_of_unlimited rfl rfl),
      written_generate (takesAll_of_unlimited rfl rfl), hPieces]
  have hDetermined := declarations_determined (by decide) (by decide)
    (by decide +kernel) (by decide +kernel) hDotted hHyphen hText
  exact ⟨hDotted, hHyphen, hText, hDetermined.2⟩

end ResourceSymbols.RClass
