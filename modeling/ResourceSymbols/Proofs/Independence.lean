import ResourceSymbols.Proofs.Partition

/-!
# Packages do not disturb one another

The class of a package is made of the entries of that package.  What the table holds
of other packages, under whatever names and with whatever content, is passed over, and
only the number of skipped entries tells that it is there.

## Main results

* `unskipped_runEntries` — a run over entries is the run over those of the package, but
  for the number of skipped ones.
* `unskipped_run` — runs over two tables that agree on the package do the same.
* `generate_of_agreeOn` — what is written and what is reported is the same for both.
-/

namespace ResourceSymbols

open Resource (Entry Group Table)

/-! ## Tables that agree on a package -/

namespace Resource

/-- The entries of the package, in their order. -/
def entriesOf (own p : String) (es : List Entry) : List Entry :=
  es.filter fun e => decide (e.origin own = p)

/-- The groups have one kind and one number, and hold the same entries of the package
in the same order. -/
structure Group.AgreeOn (own p : String) (g h : Group) : Prop where
  kind : g.kind = h.kind
  number : g.number = h.number
  entries : entriesOf own p g.entries = entriesOf own p h.entries

/-- The tables have one package and one number, and group by group agree on the package
`p`.  Nothing is asked of the entries of other packages. -/
structure Table.AgreeOn (p : String) (t u : Table) : Prop where
  package : t.package = u.package
  number : t.number = u.number
  groups : List.Forall₂ (Group.AgreeOn t.package p) t.groups u.groups

end Resource

namespace RClass

/-! ## Runs without the number of skipped entries -/

/-- The run, as if nothing had been skipped. -/
def Run.unskipped (r : Run) : Run := { r with tally := { r.tally with skipped := 0 } }

theorem Run.unskipped_andThen (a b : Run) :
    (a.andThen b).unskipped = a.unskipped.andThen b.unskipped := by
  obtain ⟨pieces, tally, silent, offence⟩ := a
  cases offence with
  | none => rfl
  | some o => rfl

theorem Run.eq_of_unskipped {a b : Run} (h : a.unskipped = b.unskipped) :
    a.pieces = b.pieces ∧ a.offence = b.offence ∧
      { a.tally with skipped := 0 } = { b.tally with skipped := 0 } := by
  simp only [Run.unskipped, Run.mk.injEq] at h
  obtain ⟨hPieces, hTally, -, hOffence⟩ := h
  exact ⟨hPieces, hOffence, hTally⟩

section

variable (style : Style) {t u : Table} {g h : Group} {p : String}

theorem runEntries_cons (t : Table) (package : Option String) (g : Group) (e : Entry)
    (es : List Entry) :
    runEntries style t package g (e :: es) =
      (runEntry style t package g e).andThen (runEntries style t package g es) := by
  rw [runEntries_eq_all, runEntries_eq_all]
  rfl

/-- An entry of another package leaves no mark but its count. -/
theorem unskipped_runEntry (hTable : t.WellFormed) (hg : g ∈ t.groups) {e : Entry}
    (he : e ∈ g.entries) (hForeign : e.origin t.package ≠ p) :
    (runEntry style t (some p) g e).unskipped = .done := by
  have hFate := (fate_eq_skipped_iff hTable hg he p).2 hForeign
  unfold runEntry
  rw [hFate]
  rfl

/-- A run over entries is the run over those of the package, but for the number of
skipped ones. -/
theorem unskipped_runEntries (hTable : t.WellFormed) (hg : g ∈ t.groups) {es : List Entry}
    (hEntries : ∀ e ∈ es, e ∈ g.entries) :
    (runEntries style t (some p) g es).unskipped =
      (runEntries style t (some p) g (Resource.entriesOf t.package p es)).unskipped := by
  induction es with
  | nil => rfl
  | cons e es ih =>
      rw [List.forall_mem_cons] at hEntries
      have hRest := ih hEntries.2
      rw [runEntries_cons, Run.unskipped_andThen, hRest]
      by_cases hOrigin : e.origin t.package = p
      · have hKept : Resource.entriesOf t.package p (e :: es) =
            e :: Resource.entriesOf t.package p es :=
          List.filter_cons_of_pos (decide_eq_true hOrigin)
        rw [hKept, runEntries_cons, Run.unskipped_andThen]
      · have hPassed : Resource.entriesOf t.package p (e :: es) =
            Resource.entriesOf t.package p es :=
          List.filter_cons_of_neg (by simpa using hOrigin)
        rw [hPassed, unskipped_runEntry style hTable hg hEntries.1 hOrigin, Run.done_andThen]

/-! ## Runs over two tables -/

/-- Of the table and the group, what becomes of an entry depends on what agreeing ones
have in common. -/
theorem fate_of_agreeOn (hAgree : t.AgreeOn p u) (hGroup : g.AgreeOn t.package p h)
    (package : Option String) (e : Entry) : fate t package g e = fate u package h e := by
  unfold fate
  rw [hAgree.number, hGroup.number, hGroup.kind, hAgree.package]

theorem runEntries_of_agreeOn (hAgree : t.AgreeOn p u) (hGroup : g.AgreeOn t.package p h)
    (package : Option String) (es : List Entry) :
    runEntries style t package g es = runEntries style u package h es := by
  induction es with
  | nil => rfl
  | cons e es ih =>
      rw [runEntries, runEntries, fate_of_agreeOn hAgree hGroup, hAgree.package, ih]

theorem unskipped_runGroup (hTable : t.WellFormed) (hTable' : u.WellFormed)
    (hAgree : t.AgreeOn p u) (hg : g ∈ t.groups) (hh : h ∈ u.groups)
    (hGroup : g.AgreeOn t.package p h) :
    (runGroup style t (some p) g).unskipped = (runGroup style u (some p) h).unskipped := by
  have hEntries : (runEntries style t (some p) g g.entries).unskipped =
      (runEntries style u (some p) h h.entries).unskipped := by
    rw [unskipped_runEntries style hTable hg fun _ he => he, hGroup.entries,
      runEntries_of_agreeOn style hAgree hGroup, hAgree.package,
      ← unskipped_runEntries style hTable' hh fun _ he => he]
  rw [runGroup, runGroup, hGroup.kind]
  simp only [Run.unskipped_andThen, hEntries]

theorem unskipped_runGroups (hTable : t.WellFormed) (hTable' : u.WellFormed)
    (hAgree : t.AgreeOn p u) {gs hs : List Group}
    (hGroups : List.Forall₂ (Group.AgreeOn t.package p) gs hs)
    (hgs : ∀ g ∈ gs, g ∈ t.groups) (hhs : ∀ h ∈ hs, h ∈ u.groups) :
    (runGroups style t (some p) gs).unskipped =
      (runGroups style u (some p) hs).unskipped := by
  induction hGroups with
  | nil => rfl
  | cons hHead _ ih =>
      rw [List.forall_mem_cons] at hgs hhs
      have hRest := ih hgs.2 hhs.2
      have hGroup := unskipped_runGroup style hTable hTable' hAgree hgs.1 hhs.1 hHead
      rw [runGroups, runGroups, Run.unskipped_andThen, Run.unskipped_andThen, hGroup, hRest]

/-- Tables that agree on the package give the same run for it, but for the number of
skipped entries. -/
theorem unskipped_run (hTable : t.WellFormed) (hTable' : u.WellFormed)
    (hAgree : t.AgreeOn p u) (label : String) :
    (run style t (some p) label).unskipped = (run style u (some p) label).unskipped := by
  have hGroups := unskipped_runGroups style hTable hTable' hAgree hAgree.groups
    (fun _ hg => hg) fun _ hh => hh
  rw [run, run]
  simp only [Run.unskipped_andThen, hGroups]

end

/-! ## Results without the number of skipped entries -/

/-- The summary, as if nothing had been skipped. -/
def Summary.unskipped (s : Summary) : Summary :=
  { s with tally := { s.tally with skipped := 0 } }

/-- The result, as if nothing had been skipped. -/
def Result.unskipped : Result → Result
  | .complete s => .complete s.unskipped
  | .aborted s o => .aborted s.unskipped o
  | .failed i => .failed i

theorem Result.isComplete_unskipped (r : Result) : r.unskipped.isComplete = r.isComplete := by
  cases r <;> rfl

theorem Result.message?_unskipped (r : Result) : r.unskipped.message? = r.message? := by
  cases r <;> rfl

/-- But for the number itself, nothing that is told of a generation depends on how many
entries were skipped. -/
theorem Summary.get?_fields_unskipped (s : Summary) {key : String} (hKey : key ≠ "skipped") :
    Json.Members.get? s.unskipped.fields key = Json.Members.get? s.fields key := by
  simp only [Summary.fields, Summary.unskipped, Json.Members.get?, List.cons_append,
    List.nil_append, Json.Association.get?, id_eq, if_neg hKey]

theorem Result.get?_fields_unskipped (r : Result) {key : String} (hKey : key ≠ "skipped") :
    Json.Members.get? r.unskipped.fields key = Json.Members.get? r.fields key := by
  cases r with
  | complete s => exact s.get?_fields_unskipped hKey
  | aborted s o => exact s.get?_fields_unskipped hKey
  | failed i => rfl

/-- The results say the same, and tell the same but for how many entries were
skipped. -/
structure Result.AgreesWith (r r' : Result) : Prop where
  isComplete : r.isComplete = r'.isComplete
  message? : r.message? = r'.message?
  fields : ∀ key, key ≠ "skipped" →
    Json.Members.get? r.fields key = Json.Members.get? r'.fields key

theorem Result.agreesWith_of_unskipped {r r' : Result} (h : r.unskipped = r'.unskipped) :
    r.AgreesWith r' := by
  refine { isComplete := ?_, message? := ?_, fields := fun key hKey => ?_ }
  · rw [← r.isComplete_unskipped, h, r'.isComplete_unskipped]
  · rw [← r.message?_unskipped, h, r'.message?_unskipped]
  · rw [← r.get?_fields_unskipped hKey, h, r'.get?_fields_unskipped hKey]

/-! ## Generations -/

section

variable {style : Style} {t u : Table} {p : String}

/-- A generation into a sink that fails stops there. -/
theorem generate_of_not_takesAll {sink : Sink} (hFull : ¬ sink.TakesAll style t p) :
    ∃ i, (sink.takeFrom 0 (run style t (some p) p).pieces).2 = some i ∧
      (generate style t (.text p) sink).written =
        String.join (sink.takeFrom 0 (run style t (some p) p).pieces).1 ∧
      (generate style t (.text p) sink).outcome = .error i := by
  obtain ⟨i, hRefusal⟩ := Option.ne_none_iff_exists'.1 hFull
  exact ⟨i, hRefusal, generate_of_refusal hRefusal⟩

/-- A generation is settled by its run and by what its summary takes from the table. -/
theorem generate_of_unskipped (sink : Sink) (hPackage : t.package = u.package)
    (hCount : t.groups.length = u.groups.length)
    (hRun : (run style t (some p) p).unskipped = (run style u (some p) p).unskipped) :
    (generate style t (.text p) sink).written = (generate style u (.text p) sink).written ∧
      (generate style t (.text p) sink).outcome.map Result.unskipped =
        (generate style u (.text p) sink).outcome.map Result.unskipped := by
  obtain ⟨hPieces, hOffence, hTally⟩ := Run.eq_of_unskipped hRun
  have hSummary : (summaryOf style t p).unskipped = (summaryOf style u p).unskipped := by
    simp only [Summary.unskipped, summaryOf, hPackage, hCount, hTally]
  by_cases hSink : sink.TakesAll style t p
  · have hSink' : sink.TakesAll style u p := by
      unfold Sink.TakesAll at hSink ⊢
      rwa [← hPieces]
    rw [written_generate hSink, written_generate hSink', outcome_generate hSink,
      outcome_generate hSink', hPieces, hOffence]
    refine ⟨rfl, ?_⟩
    cases (run style u (some p) p).offence with
    | none => exact congrArg (fun s => Except.ok (Result.complete s)) hSummary
    | some o =>
        cases o with
        | reserved name =>
            exact congrArg (fun s => Except.ok (Result.aborted s (.reserved name))) hSummary
        | _ => rfl
  · have hSink' : ¬ sink.TakesAll style u p := by
      unfold Sink.TakesAll at hSink ⊢
      rwa [← hPieces]
    obtain ⟨i, hRefusal, hWritten, hOutcome⟩ := generate_of_not_takesAll hSink
    obtain ⟨j, hRefusal', hWritten', hOutcome'⟩ := generate_of_not_takesAll hSink'
    rw [hPieces, hRefusal', Option.some.injEq] at hRefusal
    rw [hWritten, hWritten', hOutcome, hOutcome', hPieces, hRefusal]
    exact ⟨rfl, rfl⟩

end

/-- Two tables that were read and agree on a package give the same class of it, into
whatever sink: the same text, and the same outcome but for the number of skipped
entries.  If the sink takes all, there is a result for both. -/
theorem generate_of_agreeOn {v w : Json.Value} {t u : Table}
    (hRead : Table.ofDocument v = .ok t) (hRead' : Table.ofDocument w = .ok u) {p : String}
    (hAgree : t.AgreeOn p u) (style : Style) (sink : Sink) :
    (generate style t (.text p) sink).written = (generate style u (.text p) sink).written ∧
    (generate style t (.text p) sink).outcome.map Result.unskipped =
      (generate style u (.text p) sink).outcome.map Result.unskipped ∧
    (sink.TakesAll style t p → ∃ r r',
      (generate style t (.text p) sink).outcome = .ok r ∧
      (generate style u (.text p) sink).outcome = .ok r' ∧ r.AgreesWith r') := by
  have hTable := Table.wellFormed_of_ofDocument hRead
  have hTable' := Table.wellFormed_of_ofDocument hRead'
  have hRun := unskipped_run style hTable hTable' hAgree p
  obtain ⟨hWritten, hOutcome⟩ :=
    generate_of_unskipped sink hAgree.package hAgree.groups.length_eq hRun
  refine ⟨hWritten, hOutcome, fun hSink => ?_⟩
  obtain ⟨r, hr⟩ := exists_result_of_wellFormed hTable hSink
  rw [hr] at hOutcome
  cases hr' : (generate style u (.text p) sink).outcome with
  | error i =>
      rw [hr'] at hOutcome
      cases hOutcome
  | ok r' =>
      rw [hr'] at hOutcome
      exact ⟨r, r', hr, rfl, Result.agreesWith_of_unskipped (Except.ok.inj hOutcome)⟩

/-- A string of the package `lib`. -/
def importedString : Json.Value :=
  .object [("name", .text "lib$title"), ("id", .int 7)]

/-- A styleable of the package `lib`. -/
def importedStyleable : Json.Value :=
  .object [("name", .text "lib$View"), ("id", .int 1), ("values", .list [
    .object [("styleable", .list [
      .object [("id", .int 0x01010000), ("name", .text "a:b")]])]])]

/-- A document of strings and styleables. -/
def twoTypesDocument (strings styleables : List Json.Value) : Json.Value :=
  .object [("package", .text "app"), ("id", .int 0x7F), ("types", .list [
    .object [("type", .text "string"), ("id", .int 1), ("entries", .list strings)],
    .object [("type", .text "styleable"), ("id", .int 2), ("entries", .list styleables)]])]

/-- A document in which the table's own entries have a reserved name and no attributes. -/
def crowdedDocument : Json.Value :=
  twoTypesDocument
    [.object [("name", .text "class"), ("id", .int 0)], importedString]
    [importedStyleable,
      .object [("name", .text "Odd"), ("id", .int 1), ("values", .list [.null])]]

/-- A document with the same entries of `lib`, and of other packages none but a reserved
name. -/
def sparseDocument : Json.Value :=
  twoTypesDocument
    [importedString, .object [("name", .text "other$int"), ("id", .int 7)]]
    [importedStyleable]

theorem generate_of_agreeOn_crowdedDocument :
    ∃ t u, Table.ofDocument crowdedDocument = .ok t ∧
      Table.ofDocument sparseDocument = .ok u ∧ t.AgreeOn "lib" u ∧
      t.entryCount ≠ u.entryCount ∧
      (generate ⟨true⟩ t (.text "lib") {}).written =
        (generate ⟨true⟩ u (.text "lib") {}).written ∧
      ∃ r r', (generate ⟨true⟩ t (.text "lib") {}).outcome = .ok r ∧
        (generate ⟨true⟩ u (.text "lib") {}).outcome = .ok r' ∧ r.AgreesWith r' := by
  obtain ⟨t, hRead⟩ : ∃ t, Table.ofDocument crowdedDocument = .ok t := ⟨_, rfl⟩
  obtain ⟨u, hRead'⟩ : ∃ u, Table.ofDocument sparseDocument = .ok u := ⟨_, rfl⟩
  have hAgree : t.AgreeOn "lib" u := by
    cases hRead
    cases hRead'
    refine { package := rfl, number := rfl, groups := .cons ?_ (.cons ?_ .nil) }
    · exact { kind := rfl, number := rfl, entries := rfl }
    · exact { kind := rfl, number := rfl, entries := rfl }
  have hCounts : t.entryCount ≠ u.entryCount := by
    cases hRead
    cases hRead'
    decide
  obtain ⟨hWritten, -, hResults⟩ := generate_of_agreeOn hRead hRead' hAgree ⟨true⟩ {}
  exact ⟨t, u, hRead, hRead', hAgree, hCounts, hWritten, hResults (takesAll_of_unlimited rfl rfl)⟩

end RClass

end ResourceSymbols
