import ResourceSymbols.Proofs.Arrangement
import ResourceSymbols.Proofs.Independence

/-!
# Tables that are merged into others

A library's entries are merged into the table of another package under mangled names.
The class of the library is the same from both tables: each entry is found on its own
branch, as an own one before and as an imported one after, under the same plain name and
with the same identifier.  Only the names of the constants for indices ask for the package
of the table, so they must be told apart from it in both tables or in neither.

## Main results

* `fate_merged` — what becomes of an entry before and after.
* `indexName_of_iff` — when the constants for indices keep their names.
* `run_mergedInto` — the runs over both tables are the same.
* `generate_mergedInto` — so is what is written and reported, the package of the table
  apart.
-/

namespace ResourceSymbols

open Resource (Attribute Entry Group Id Table)

/-! ## Merged tables -/

namespace Resource

/-- The entry under the name that tells the package it comes from. -/
def Entry.merged (origin : String) (e : Entry) : Entry := { e with name := mangle origin e.name }

/-- The group with its entries under such names. -/
def Group.merged (origin : String) (g : Group) : Group :=
  { g with entries := g.entries.map (Entry.merged origin) }

/-- The table as one of the package `host`, with its entries as imported ones.  Their
identifiers and what they hold stay. -/
def Table.mergedInto (host : String) (t : Table) : Table :=
  { package := host, number := t.number, groups := t.groups.map (Group.merged t.package) }

/-- No name in the table holds the separator of mangled names. -/
structure Table.Unmangled (t : Table) : Prop where
  package : separator ∉ t.package.toList
  entries : ∀ g ∈ t.groups, ∀ e ∈ g.entries, separator ∉ e.name.toList

/-- No attribute in the table is of the package. -/
def Table.RefersToNone (package : String) (t : Table) : Prop :=
  ∀ g ∈ t.groups, ∀ e ∈ g.entries, ∀ attributes, Value.styleable attributes ∈ e.values →
    ∀ a ∈ attributes, a.name.package ≠ package

end Resource

namespace RClass

/-! ## Names of the constants for indices -/

section

variable {own host : String}

/-- A name is the same from two tables if the attribute is of both packages or of
neither. -/
theorem indexName_of_iff (owner : String) {a : Attribute}
    (hSame : a.name.package = own ↔ a.name.package = host) :
    indexName host owner a = indexName own owner a := by
  unfold indexName
  simp only [ne_eq, hSame]

theorem indexPieces_of_iff (style : Style) (owner : String) (index : Nat) {as : List Attribute}
    (hSame : ∀ a ∈ as, a.name.package = own ↔ a.name.package = host) :
    indexPieces style host owner index as = indexPieces style own owner index as := by
  induction as generalizing index with
  | nil => rfl
  | cons a as ih =>
      rw [List.forall_mem_cons] at hSame
      rw [indexPieces, indexPieces, indexName_of_iff owner hSame.1, ih _ hSame.2]

end

/-! ## Entries -/

section

variable {t : Table} {g : Group} {e : Entry} {host : String}

/-- What becomes of an entry is the same before and after it is merged. -/
theorem fate_merged (hTable : t.WellFormed) (hPlain : t.Unmangled) (hg : g ∈ t.groups)
    (he : e ∈ g.entries) :
    fate (t.mergedInto host) (some t.package) (g.merged t.package) (e.merged t.package) =
      fate t (some t.package) g e := by
  obtain ⟨id, hId, hAssigned⟩ := exists_id_of_wellFormed hTable hg he
  have hId' : Id.ofParts (t.mergedInto host).number (g.merged t.package).number
      (e.merged t.package).number = .ok id := hId
  obtain ⟨hOrigin, hName⟩ : e.origin t.package = t.package ∧ e.plainName = e.name :=
    Entry.belongsTo_iff.1 (.inr ⟨rfl, hPlain.entries g hg e he, rfl⟩)
  obtain ⟨hOrigin', hName'⟩ : (e.merged t.package).origin (t.mergedInto host).package =
      t.package ∧ (e.merged t.package).plainName = e.name :=
    Entry.belongsTo_iff.1 (.inl ⟨rfl, hPlain.package⟩)
  -- Before, the name is no mangled one; after, it is, and tells the same two parts.
  rw [fate_of_id hId hAssigned, fate_of_id hId' hAssigned, if_pos hOrigin, if_pos hOrigin',
    hName, hName']
  rfl

/-- The attributes of an array are those that its entry holds. -/
theorem mem_values_of_fate {name : String} {attributes : List Attribute} {package : String}
    (hFate : fate t (some package) g e = .ok (.array name attributes)) :
    ∃ stored, Resource.Value.styleable stored ∈ e.values ∧ attributes = arrange stored := by
  obtain ⟨id, -, -, hArray⟩ := fate_eq_ok hFate
  split at hArray
  · unfold declaration at hArray
    split at hArray
    · rename_i stored more hValues
      split at hArray
      · cases hArray
        exact ⟨stored, by rw [hValues]; exact List.mem_cons_self, rfl⟩
      · cases hArray
    · split at hArray <;> cases hArray
  · cases hArray

/-- What is declared is written in the same way from two tables if their packages are
told apart from those of the attributes in the same way. -/
theorem run_of_iff (style : Style) {f : Fate} {own : String}
    (hSame : ∀ name attributes, f = .array name attributes →
      ∀ a ∈ attributes, a.name.package = own ↔ a.name.package = host) :
    f.run style host = f.run style own := by
  cases f with
  | skipped => rfl
  | silent name => rfl
  | constant name id => rfl
  | array name attributes =>
      simp only [Fate.run, Fate.pieces, indexPieces_of_iff style name 0 (hSame name attributes rfl)]

/-! ## Runs -/

variable (style : Style) (hTable : t.WellFormed) (hPlain : t.Unmangled)
  (hRefers : host = t.package ∨ (t.RefersToNone t.package ∧ t.RefersToNone host))

include hTable hPlain hRefers

theorem runEntries_merged (hg : g ∈ t.groups) {es : List Entry}
    (hEntries : ∀ e ∈ es, e ∈ g.entries) :
    runEntries style (t.mergedInto host) (some t.package) (g.merged t.package)
        (es.map (Entry.merged t.package)) =
      runEntries style t (some t.package) g es := by
  induction es with
  | nil => rfl
  | cons e es ih =>
      rw [List.forall_mem_cons] at hEntries
      rw [List.map_cons, runEntries, runEntries, fate_merged hTable hPlain hg hEntries.1,
        ih hEntries.2]
      cases hFate : fate t (some t.package) g e with
      | error o => rfl
      | ok f =>
          have hRun : f.run style host = f.run style t.package := by
            refine run_of_iff style fun name attributes hArray a ha => ?_
            rcases hRefers with rfl | ⟨hOwn, hHost⟩
            · exact Iff.rfl
            · rw [hArray] at hFate
              obtain ⟨stored, hStored, rfl⟩ := mem_values_of_fate hFate
              have ha' : a ∈ stored := (arrange_perm stored).mem_iff.1 ha
              exact iff_of_false (hOwn g hg e hEntries.1 stored hStored a ha')
                (hHost g hg e hEntries.1 stored hStored a ha')
          exact congrArg (Run.andThen · _) hRun

theorem runGroups_merged {gs : List Group} (hGroups : ∀ g ∈ gs, g ∈ t.groups) :
    runGroups style (t.mergedInto host) (some t.package) (gs.map (Group.merged t.package)) =
      runGroups style t (some t.package) gs := by
  induction gs with
  | nil => rfl
  | cons g gs ih =>
      rw [List.forall_mem_cons] at hGroups
      have hEntries := runEntries_merged style hTable hPlain hRefers hGroups.1 fun _ he => he
      have hGroup : runGroup style (t.mergedInto host) (some t.package) (g.merged t.package) =
          runGroup style t (some t.package) g :=
        congrArg (fun r => (Run.writing _).andThen (Run.andThen r _)) hEntries
      rw [List.map_cons, runGroups, runGroups, hGroup, ih hGroups.2]

/-- The run for the library is the same over its own table and over the one that it is
merged into. -/
theorem run_mergedInto (label : String) :
    run style (t.mergedInto host) (some t.package) label =
      run style t (some t.package) label :=
  congrArg (fun r => (Run.writing _).andThen (Run.andThen r _))
    (runGroups_merged style hTable hPlain hRefers fun _ hg => hg)

end

/-! ## Generations -/

/-- The result, as if it were told of the table of another package. -/
def Result.inTable (package : String) : Result → Result
  | .complete s => .complete { s with tablePackage := package }
  | .aborted s o => .aborted { s with tablePackage := package } o
  | .failed i => .failed i

theorem Result.isComplete_inTable (package : String) (r : Result) :
    (r.inTable package).isComplete = r.isComplete := by
  cases r <;> rfl

theorem Result.message?_inTable (package : String) (r : Result) :
    (r.inTable package).message? = r.message? := by
  cases r <;> rfl

/-- Nothing else that is told of a generation names the package of the table. -/
theorem Result.get?_fields_inTable (package : String) (r : Result) {key : String}
    (hKey : key ≠ "table_package") :
    Json.Members.get? (r.inTable package).fields key = Json.Members.get? r.fields key := by
  cases r <;> simp only [Result.inTable, Result.fields, Summary.fields, Json.Members.get?,
    List.cons_append, List.nil_append, Json.Association.get?, id_eq, if_neg hKey]

/-- Tables with one run have one generation, but for the package of the table. -/
theorem generate_of_run_eq {style : Style} {t u : Table} {p : String} (sink : Sink)
    (hCount : u.groups.length = t.groups.length)
    (hRun : run style u (some p) p = run style t (some p) p) :
    (generate style u (.text p) sink).written = (generate style t (.text p) sink).written ∧
      (generate style u (.text p) sink).outcome =
        (generate style t (.text p) sink).outcome.map (Result.inTable u.package) := by
  by_cases hSink : sink.TakesAll style t p
  · have hSink' : sink.TakesAll style u p := by
      unfold Sink.TakesAll at hSink ⊢
      rwa [hRun]
    rw [written_generate hSink, written_generate hSink', outcome_generate hSink,
      outcome_generate hSink', summaryOf, summaryOf, hRun, hCount]
    refine ⟨rfl, ?_⟩
    cases (run style t (some p) p).offence with
    | none => rfl
    | some o => cases o <;> rfl
  · have hSink' : ¬ sink.TakesAll style u p := by
      unfold Sink.TakesAll at hSink ⊢
      rwa [hRun]
    obtain ⟨i, hRefusal, hWritten, hOutcome⟩ := generate_of_not_takesAll hSink
    obtain ⟨j, hRefusal', hWritten', hOutcome'⟩ := generate_of_not_takesAll hSink'
    rw [hRun, hRefusal, Option.some.injEq] at hRefusal'
    rw [hWritten, hWritten', hOutcome, hOutcome', hRun, hRefusal']
    exact ⟨rfl, rfl⟩

/-- A library that is merged into the table of another package has the same class there:
the same text, into whatever sink, and the same outcome but for the package of the table.
If the sink takes all, there is a result for both, with one flag, one message and one set
of counters. -/
theorem generate_mergedInto {document : Json.Value} {t : Table}
    (hRead : Table.ofDocument document = .ok t) (hPlain : t.Unmangled) {host : String}
    (hRefers : host = t.package ∨ (t.RefersToNone t.package ∧ t.RefersToNone host))
    (style : Style) (sink : Sink) :
    (generate style (t.mergedInto host) (.text t.package) sink).written =
      (generate style t (.text t.package) sink).written ∧
    (generate style (t.mergedInto host) (.text t.package) sink).outcome =
      (generate style t (.text t.package) sink).outcome.map (Result.inTable host) ∧
    (sink.TakesAll style t t.package → ∃ r r',
      (generate style t (.text t.package) sink).outcome = .ok r ∧
      (generate style (t.mergedInto host) (.text t.package) sink).outcome = .ok r' ∧
      r'.isComplete = r.isComplete ∧ r'.message? = r.message? ∧
      ∀ key, key ≠ "table_package" →
        Json.Members.get? r'.fields key = Json.Members.get? r.fields key) := by
  have hTable := Table.wellFormed_of_ofDocument hRead
  have hRun := run_mergedInto style hTable hPlain hRefers t.package
  obtain ⟨hWritten, hOutcome⟩ :=
    generate_of_run_eq sink (List.length_map (Group.merged t.package)) hRun
  refine ⟨hWritten, hOutcome, fun hSink => ?_⟩
  obtain ⟨r, hr⟩ := exists_result_of_wellFormed hTable hSink
  refine ⟨r, r.inTable host, hr, ?_, r.isComplete_inTable host, r.message?_inTable host,
    fun key hKey => r.get?_fields_inTable host hKey⟩
  rw [hOutcome, hr]
  rfl

/-- The document of a library with an array of attributes of one other package, and a
reserved name after it. -/
def libraryDocument : Json.Value :=
  .object [("package", .text "lib.ui"), ("id", .int 0x7F), ("types", .list [
    .object [("type", .text "styleable"), ("id", .int 2), ("entries", .list [
      .object [("name", .text "View"), ("id", .int 0), ("values", .list [
        .object [("styleable", .list [
          .object [("id", .int 0x01010001), ("name", .text "android:text")],
          .object [("id", .int 0x01010000), ("name", .text "android:attr/id")]])]])]])],
    .object [("type", .text "string"), ("id", .int 1), ("entries", .list [
      .object [("name", .text "ok"), ("id", .int 0)],
      .object [("name", .text "class"), ("id", .int 1)]])]])]

/-- The table of `libraryDocument`. -/
def libraryTable : Table :=
  { package := "lib.ui"
    number := 0x7F
    groups := [
      { kind := .styleable
        number := 2
        entries := [{ name := "View", number := 0, values := [.styleable
          [⟨.ofWords 1 1 1, ⟨"android", .attr, "text"⟩⟩,
            ⟨.ofWords 1 1 0, ⟨"android", .attr, "id"⟩⟩]] }] },
      { kind := .string, number := 1, entries := [⟨"ok", 0, []⟩, ⟨"class", 1, []⟩] }] }

theorem generate_mergedInto_libraryDocument :
    Table.ofDocument libraryDocument = .ok libraryTable ∧ libraryTable.Unmangled ∧
      libraryTable.RefersToNone "lib.ui" ∧ libraryTable.RefersToNone "app" ∧
      (generate ⟨true⟩ (libraryTable.mergedInto "app") (.text "lib.ui") {}).written =
        (generate ⟨true⟩ libraryTable (.text "lib.ui") {}).written ∧
      ∃ r r', (generate ⟨true⟩ libraryTable (.text "lib.ui") {}).outcome = .ok r ∧
        (generate ⟨true⟩ (libraryTable.mergedInto "app") (.text "lib.ui") {}).outcome = .ok r' ∧
        r'.isComplete = r.isComplete ∧ r'.message? = r.message? ∧
        ∀ key, key ≠ "table_package" →
          Json.Members.get? r'.fields key = Json.Members.get? r.fields key := by
  have hRead : Table.ofDocument libraryDocument = .ok libraryTable := rfl
  have hPlain : libraryTable.Unmangled := by
    constructor <;> simp [libraryTable, Resource.separator]
  have hOwn : libraryTable.RefersToNone "lib.ui" := by
    simp [Table.RefersToNone, libraryTable]
  have hHost : libraryTable.RefersToNone "app" := by
    simp [Table.RefersToNone, libraryTable]
  obtain ⟨hWritten, -, hResults⟩ :=
    generate_mergedInto hRead hPlain (.inr ⟨hOwn, hHost⟩) ⟨true⟩ {}
  exact ⟨hRead, hPlain, hOwn, hHost, hWritten, hResults (takesAll_of_unlimited rfl rfl)⟩

end RClass

end ResourceSymbols
