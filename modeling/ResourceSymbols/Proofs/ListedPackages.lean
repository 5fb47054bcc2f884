import ResourceSymbols.Proofs.AbortPoint
import ResourceSymbols.RClass.Output

/-!
# The class of a listed package

A table lists the packages that it has entries of.  Whoever asks for one of them by name
gets the class of that package, and every entry stands in one of these classes.  Only
the package whose name is empty cannot be asked for: an empty name counts as none.

## Main results

* `toSource_of_target` — the class as a text is what the generation writes.
* `exists_append_of_isComplete` — a complete class holds the text of each of its
  entries.
* `toSourceGiven_of_ne_empty` — what is generated for a named package, and what never
  is.
* `toSourceGiven_hiddenDocument` — a listed package that cannot be asked for.
-/

namespace ResourceSymbols.RClass

open Resource (Entry Group Table)

/-! ## Targets -/

section

variable {s : Settings} {t : Table}

/-- A package that is asked for by name is the target. -/
theorem targetOf_text {p : String} (hName : p ≠ "") :
    targetOf (.text p) s t = .text p := by
  have hTruthy : (Json.Value.text p).isTruthy = true := by
    simp [Json.Value.isTruthy, hName]
  rw [targetOf, if_pos hTruthy]

/-- The empty name is never the target of a named table. -/
theorem targetOf_ne_empty (hNamed : t.package ≠ "") (asked : Json.Value) :
    targetOf asked s t ≠ .text "" := by
  unfold targetOf
  split
  · rintro rfl
    rename_i hTruthy
    simp [Json.Value.isTruthy] at hTruthy
  · split
    · intro hTarget
      rename_i hTruthy
      rw [hTarget] at hTruthy
      simp [Json.Value.isTruthy] at hTruthy
    · rw [ne_eq, Json.Value.text.injEq]
      exact hNamed

end

/-! ## Classes as texts -/

/-- A generation with a result is not changed by the guard. -/
theorem generateGuarded_of_ok {style : Style} {t : Table} {target : Json.Value} {sink : Sink}
    {r : Result} (hOutcome : (generate style t target sink).outcome = .ok r) :
    generateGuarded style t target sink = generate style t target sink := by
  unfold generateGuarded
  simp only [hOutcome]

section

variable {t : Table} {p : String}

/-- The class of a well-formed table as a text is what the generation writes into a sink
that takes all, and its result is what comes of that generation. -/
theorem toSource_of_target (hTable : t.WellFormed) {asked : Json.Value} {s : Settings}
    (hTarget : targetOf asked s t = .text p) :
    ∃ source, (toSource t asked s).1 = .ok source ∧
      ∀ sink : Sink, sink.TakesAll (styleOf s) t p →
        source.code = (generate (styleOf s) t (.text p) sink).written ∧
        (generate (styleOf s) t (.text p) sink).outcome = .ok source.result := by
  have hAll : ({} : Sink).TakesAll (styleOf s) t p := takesAll_of_unlimited rfl rfl
  obtain ⟨r, hOutcome⟩ := exists_result_of_wellFormed hTable hAll
  refine ⟨⟨(generate (styleOf s) t (.text p) {}).written, r⟩, ?_, fun sink hSink => ⟨?_, ?_⟩⟩
  · simp only [toSource, hTarget, generateGuarded_of_ok hOutcome, hOutcome]
  · rw [written_generate hAll, written_generate hSink]
  · rw [outcome_generate hSink, ← outcome_generate hAll, hOutcome]

/-- A row of pieces stands in the text where it stands among the pieces. -/
theorem exists_append_of_infix {xs ys : List String} (hInfix : xs <:+: ys) :
    ∃ before after, String.join ys = before ++ String.join xs ++ after := by
  obtain ⟨front, back, rfl⟩ := hInfix
  exact ⟨String.join front, String.join back, by rw [String.join_append, String.join_append]⟩

/-- A complete class holds the text of each entry of its package. -/
theorem exists_append_of_isComplete {style : Style} {r : Result}
    (hOutcome : (generate style t (.text p) {}).outcome = .ok r)
    (hComplete : r.isComplete = true) {g : Group} (hg : g ∈ t.groups) {e : Entry}
    (he : e ∈ g.entries) :
    ∃ before after, (generate style t (.text p) {}).written =
      before ++ entryText style t p g e ++ after := by
  cases r with
  | aborted s o => cases hComplete
  | failed i => cases hComplete
  | complete s =>
      obtain ⟨hSink, hOffence, -⟩ := complete_of_outcome hOutcome
      have hNone := (offence_run_eq_none_iff style t (some p) p).1 hOffence
      have hReached : Reached t (some p) g e := by
        obtain ⟨gs₁, gs₂, hGroups⟩ := List.append_of_mem hg
        obtain ⟨es₁, es₂, hEntries⟩ := List.append_of_mem he
        refine ⟨gs₁, gs₂, es₁, es₂, hGroups, hEntries, ?_, ?_⟩
        · intro h hh
          exact hNone h (by rw [hGroups]; exact List.mem_append_left _ hh)
        · intro d hd
          exact hNone g hg d (by rw [hEntries]; exact List.mem_append_left _ hd)
      have hSound := offence?_eq_none_iff.1 (hNone g hg e he)
      rw [written_generate hSink, ← (covers_runEntry style hSound).text]
      exact exists_append_of_infix (runEntry_infix_run style t (some p) p hReached)

theorem constantLine_ne_empty (style : Style) (symbol value : String) :
    constantLine style symbol value ≠ "" := by
  unfold constantLine
  rw [ne_eq, String.append_eq_empty_iff]
  rintro ⟨-, hEnd⟩
  revert hEnd
  decide

theorem arrayText_ne_empty (symbol body : String) : arrayText symbol body ≠ "" := by
  unfold arrayText
  rw [ne_eq, String.append_eq_empty_iff]
  rintro ⟨-, hEnd⟩
  revert hEnd
  decide

/-- An entry has no text in the class of its own package only where it is a styleable
whose first value holds no attributes. -/
theorem entryText_eq_empty_iff (style : Style) {g : Group} {e : Entry}
    (hOrigin : e.origin t.package = p) :
    entryText style t p g e = "" ↔
      g.kind = .styleable ∧ holdsAttributes e = false := by
  unfold entryText holdsAttributes
  rw [if_neg (not_not_intro hOrigin)]
  by_cases hKind : g.kind = .styleable
  · rw [if_neg (not_not_intro hKind)]
    cases e.values with
    | nil => exact ⟨fun _ => ⟨hKind, rfl⟩, fun _ => rfl⟩
    | cons held more =>
        cases held with
        | item data => exact ⟨fun _ => ⟨hKind, rfl⟩, fun _ => rfl⟩
        | styleable attributes =>
            simp only [String.append_eq_empty_iff, arrayText_ne_empty, false_and,
              reduceCtorEq, and_false]
  · rw [if_pos hKind]
    simp only [constantLine_ne_empty, hKind, false_and]

end

/-- With settings that are given, a named package gives the class of that package: the
text that the generation writes for it, and its result.  Every entry of a named package
stands in the class of the package, which is listed, unless it has no text at all.  The
empty name gives what no name gives, and no call generates its class. -/
theorem toSourceGiven_of_ne_empty {document : Json.Value} {t : Table}
    (hRead : Table.ofDocument document = .ok t) {given : Given} {s : Settings}
    (hGiven : given.resolve = .ok s) :
    (∀ p, p ≠ "" → ∃ source, (toSourceGiven t (.text p) given).1 = .ok source ∧
      ∀ sink : Sink, sink.TakesAll (styleOf s) t p →
        source.code = (generate (styleOf s) t (.text p) sink).written ∧
        (generate (styleOf s) t (.text p) sink).outcome = .ok source.result) ∧
    (∀ g ∈ t.groups, ∀ e ∈ g.entries, e.origin t.package ≠ "" →
      e.origin t.package ∈ t.packages ∧
      (∀ source, (toSourceGiven t (.text (e.origin t.package)) given).1 = .ok source →
        source.result.isComplete = true → ∃ before after,
          source.code =
            before ++ entryText (styleOf s) t (e.origin t.package) g e ++ after) ∧
      (entryText (styleOf s) t (e.origin t.package) g e = "" ↔
        g.kind = .styleable ∧ holdsAttributes e = false)) ∧
    toSourceGiven t (.text "") given = toSourceGiven t .null given ∧
    ∀ asked package, targetOf asked s t = .text package →
      ∀ g ∈ t.groups, ∀ e ∈ g.entries, e.origin t.package = "" →
        fate t (some package) g e = .ok .skipped := by
  have hTable := Table.wellFormed_of_ofDocument hRead
  have hGenerated : ∀ p, p ≠ "" →
      ∃ source, (toSourceGiven t (.text p) given).1 = .ok source ∧
        ∀ sink : Sink, sink.TakesAll (styleOf s) t p →
          source.code = (generate (styleOf s) t (.text p) sink).written ∧
          (generate (styleOf s) t (.text p) sink).outcome = .ok source.result := by
    intro p hName
    simp only [toSourceGiven, hGiven]
    exact toSource_of_target hTable (targetOf_text hName)
  refine ⟨hGenerated, ?_, rfl, ?_⟩
  · intro g hg e he hOrigin
    refine ⟨Entry.origin_mem_packages hg he, ?_, entryText_eq_empty_iff (styleOf s) rfl⟩
    intro source hSource hComplete
    obtain ⟨source', hSource', hWritten⟩ := hGenerated _ hOrigin
    obtain rfl : source' = source := Except.ok.inj (hSource'.symm.trans hSource)
    obtain ⟨hCode, hOutcome⟩ := hWritten {} (takesAll_of_unlimited rfl rfl)
    rw [hCode]
    exact exists_append_of_isComplete hOutcome hComplete hg he
  · intro asked package hTarget g hg e he hOrigin
    rw [fate_eq_skipped_iff hTable hg he, hOrigin]
    rintro rfl
    exact targetOf_ne_empty hTable.named asked hTarget

/-- A table with an entry of the package whose name is empty. -/
def hiddenTable : Table :=
  { package := "app"
    number := 0x7F
    groups := [{ kind := .id, number := 1, entries := [⟨"$a", 0, []⟩, ⟨"lib$b", 1, []⟩] }] }

/-- A document of `hiddenTable`. -/
def hiddenDocument : Json.Value :=
  .object [("package", .text "app"), ("id", .int 0x7F), ("types", .list [
    .object [("type", .text "id"), ("id", .int 1), ("entries", .list [
      .object [("name", .text "$a"), ("id", .int 0)],
      .object [("name", .text "lib$b"), ("id", .int 1)]])]])]

theorem toSourceGiven_of_ne_empty_hiddenDocument :
    Table.ofDocument hiddenDocument = .ok hiddenTable ∧
      (Given.value (.object [])).resolve = .ok {} ∧ "lib" ∈ hiddenTable.packages ∧
      ∃ source, (toSourceGiven hiddenTable (.text "lib") (.value (.object []))).1 = .ok source ∧
        source.code = (generate ⟨true⟩ hiddenTable (.text "lib") {}).written ∧
        (generate ⟨true⟩ hiddenTable (.text "lib") {}).outcome = .ok source.result := by
  have hRead : Table.ofDocument hiddenDocument = .ok hiddenTable := rfl
  have hGiven : (Given.value (.object [])).resolve = .ok {} := rfl
  have hListed : "lib" ∈ hiddenTable.packages := by decide +kernel
  obtain ⟨hNamed, -⟩ := toSourceGiven_of_ne_empty hRead hGiven
  obtain ⟨source, hSource, hWritten⟩ := hNamed "lib" (by decide)
  exact ⟨hRead, hGiven, hListed, source, hSource, hWritten {} (takesAll_of_unlimited rfl rfl)⟩

/-- The empty name is listed, but whoever asks for it is given another class than the
generation writes for it.  The classes of the listed packages have one constant among
them, for two entries. -/
theorem toSourceGiven_hiddenDocument :
    Table.ofDocument hiddenDocument = .ok hiddenTable ∧
      (Given.value (.object [])).resolve = .ok {} ∧ "" ∈ hiddenTable.packages ∧
      (toSourceGiven hiddenTable (.text "") (.value (.object []))).1.toOption.map Source.code ≠
        some (generate ⟨true⟩ hiddenTable (.text "") {}).written ∧
      hiddenTable.packages.map (fun p =>
        (toSourceGiven hiddenTable (.text p) (.value (.object []))).1.toOption.map fun source =>
          (source.result.isComplete, Json.Members.get? source.result.fields "constants")) =
        [some (true, some (.int 0)), some (true, some (.int 0)), some (true, some (.int 1))] := by
  have hPackages : hiddenTable.packages = ["app", "", "lib"] := by decide +kernel
  refine ⟨rfl, rfl, by decide +kernel, by decide +kernel, ?_⟩
  rw [hPackages]
  rfl

end ResourceSymbols.RClass
