import ResourceSymbols.Proofs.Emission

/-!
# Classes of tables that were read

Whatever table a document gives, the class of any package is written to its end
or up to a reserved name.  The reader's checks are all that the generation relies
on: no identifier is out of range or unassigned, no styleable is empty, and no
attribute is incomplete.

## Main results

* `generate_of_document` — a generation ends in one of the two ways, and a
  reserved name tells which.
-/

namespace ResourceSymbols.RClass

open Resource (Entry Group Table)

theorem offence?_of_wellFormed {t : Table} (hTable : t.WellFormed)
    (package : String) {g : Group} (hg : g ∈ t.groups) {e : Entry}
    (he : e ∈ g.entries) :
    offence? t (some package) g e =
      if Clashes t.package package e then
        some (.reserved ⟨package, g.kind, e.plainName⟩)
      else none := by
  obtain ⟨id, -, hFate⟩ := fate_of_wellFormed package hTable hg he
  unfold offence?
  rw [hFate]
  by_cases hClash : Clashes t.package package e
  · simp only [if_pos hClash]
  · simp only [if_neg hClash]
    split
    · rename_i hOffends
      split at hOffends <;> cases hOffends
    · rfl

/-- Over a well-formed table only a reserved name stops a run. -/
theorem exists_reserved_of_offence_run {t : Table} (hTable : t.WellFormed) {style : Style}
    {package label : String} {o : Offence}
    (hOffence : (run style t (some package) label).offence = some o) :
    ∃ name, o = .reserved name := by
  rw [offence_run] at hOffence
  obtain ⟨g, hg, hGroup⟩ := List.exists_of_findSome?_eq_some hOffence
  obtain ⟨e, he, hEntry⟩ := List.exists_of_findSome?_eq_some hGroup
  rw [offence?_of_wellFormed hTable package hg he] at hEntry
  by_cases hClash : Clashes t.package package e
  · rw [if_pos hClash] at hEntry
    exact ⟨_, (Option.some.inj hEntry).symm⟩
  · rw [if_neg hClash] at hEntry
    cases hEntry

/-- A well-formed table gives a result for every package, if the sink takes all. -/
theorem exists_result_of_wellFormed {t : Table} (hTable : t.WellFormed) {style : Style}
    {package : String} {sink : Sink} (hSink : sink.TakesAll style t package) :
    ∃ r, (generate style t (.text package) sink).outcome = .ok r := by
  rw [outcome_generate hSink]
  cases hOffence : (run style t (some package) package).offence with
  | none => exact ⟨_, rfl⟩
  | some o =>
      obtain ⟨name, rfl⟩ := exists_reserved_of_offence_run hTable hOffence
      exact ⟨_, rfl⟩

/-- The class of a table that was read from a document is complete, or is aborted
at a reserved name; it is aborted exactly when an entry of the package has one.
Nothing interrupts the generation. -/
theorem generate_of_document {document : Json.Value} {t : Table}
    (hRead : Table.ofDocument document = .ok t) (style : Style)
    (package : String) {sink : Sink} (hSink : sink.TakesAll style t package) :
    ((∀ g ∈ t.groups, ∀ e ∈ g.entries, ¬ Clashes t.package package e) ∧
      (generate style t (.text package) sink).outcome =
        .ok (.complete (summaryOf style t package))) ∨
    ∃ g ∈ t.groups, ∃ e ∈ g.entries, Clashes t.package package e ∧
      (generate style t (.text package) sink).outcome =
        .ok (.aborted (summaryOf style t package)
          (.reserved ⟨package, g.kind, e.plainName⟩)) := by
  have hTable := Table.wellFormed_of_ofDocument hRead
  rw [outcome_generate hSink]
  cases hOffence : (run style t (some package) package).offence with
  | none =>
      rw [offence_run_eq_none_iff] at hOffence
      refine .inl ⟨fun g hg e he hClash => ?_, rfl⟩
      have hNone := hOffence g hg e he
      rw [offence?_of_wellFormed hTable package hg he, if_pos hClash] at hNone
      cases hNone
  | some o =>
      -- The entry that the run stopped at can only clash.
      rw [offence_run] at hOffence
      obtain ⟨g, hg, hGroup⟩ := List.exists_of_findSome?_eq_some hOffence
      obtain ⟨e, he, hEntry⟩ := List.exists_of_findSome?_eq_some hGroup
      rw [offence?_of_wellFormed hTable package hg he] at hEntry
      by_cases hClash : Clashes t.package package e
      · rw [if_pos hClash] at hEntry
        obtain rfl := Option.some.inj hEntry
        exact .inr ⟨g, hg, e, he, hClash, rfl⟩
      · rw [if_neg hClash] at hEntry
        cases hEntry

/-- A document with identifiers in several notations, an attribute list in a group
that is not one of styleables, and an imported entry with a reserved name. -/
def importedDocument : Json.Value :=
  .object [("package", .text "app"), ("id", .text " 0x7F"), ("types", .list [
    .object [("type", .text "string"), ("id", .int 1), ("entries", .list [
      .object [("name", .text "lib$class"), ("id", .text "0b1"), ("values", .list [
        .object [("styleable", .list [
          .object [("id", .text "0x01_010000"), ("name", .text "a:b")]])]])]])],
    .object [("type", .text "styleable"), ("id", .text "2"), ("entries", .list [
      .object [("name", .text "View"), ("id", .int 0xFFFF),
        ("values", .list [.null])]])]])]

/-- The table of `importedDocument`. -/
def importedTable : Table :=
  { package := "app"
    number := 0x7F
    groups := [
      { kind := .string
        number := 1
        entries := [
          { name := "lib$class"
            number := 1
            values := [.styleable [⟨.ofWords 1 1 0, ⟨"a", .attr, "b"⟩⟩]] }] },
      { kind := .styleable
        number := 2
        entries := [{ name := "View", number := 0xFFFF, values := [.item .null] }] }] }

theorem generate_importedDocument :
    Table.ofDocument importedDocument = .ok importedTable ∧
      (((∀ g ∈ importedTable.groups, ∀ e ∈ g.entries,
          ¬ Clashes importedTable.package "lib" e) ∧
        (generate ⟨true⟩ importedTable (.text "lib") {}).outcome =
          .ok (.complete (summaryOf ⟨true⟩ importedTable "lib"))) ∨
      ∃ g ∈ importedTable.groups, ∃ e ∈ g.entries,
        Clashes importedTable.package "lib" e ∧
        (generate ⟨true⟩ importedTable (.text "lib") {}).outcome =
          .ok (.aborted (summaryOf ⟨true⟩ importedTable "lib")
            (.reserved ⟨"lib", g.kind, e.plainName⟩))) := by
  have hRead : Table.ofDocument importedDocument = .ok importedTable := rfl
  exact ⟨hRead, generate_of_document hRead ⟨true⟩ "lib" (takesAll_of_unlimited rfl rfl)⟩

end ResourceSymbols.RClass
