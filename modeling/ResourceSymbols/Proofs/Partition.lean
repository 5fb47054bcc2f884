import Mathlib.Algebra.BigOperators.Ring.List
import Mathlib.Algebra.Ring.Nat
import Mathlib.Data.List.Nodup
import ResourceSymbols.Proofs.ClassText
import ResourceSymbols.Proofs.Completion

/-!
# The classes of a table share its entries out

A table lists its own package and the packages of its imported entries.  The
classes of these packages declare every entry once: the package of an entry is
listed, and the classes of all other packages skip it.  What a class declares is
what stands in its text.

## Main results

* `existsUnique_owner` — of the listed packages exactly one has an entry.
* `sum_count_packages` — what the classes of the listed packages count.
* `generate_of_not_mem_packages` — the class of any other package is empty.
* `exists_only_entryText` — an entry has one text among the classes.
* `classes_partition` — all of it, for a table that was read.
-/

namespace ResourceSymbols.RClass

open Resource (Attribute Entry Group Table)

/-! ## Sums over packages -/

private theorem sum_map_swap {α β : Type} (xs : List α) (ys : List β)
    (f : α → β → Nat) :
    (xs.map fun x => (ys.map fun y => f x y).sum).sum =
      (ys.map fun y => (xs.map fun x => f x y).sum).sum := by
  induction xs with
  | nil => simp
  | cons x xs ih => simp only [List.map_cons, List.sum_cons, ih, List.sum_map_add]

/-- One member of the list counts `a`, and every other one counts `b`. -/
private theorem sum_map_owner {ps : List String} (hNodup : ps.Nodup)
    {owner : String} (hMem : owner ∈ ps) (a b : Nat) :
    (ps.map fun p => if owner = p then a else b).sum = a + (ps.length - 1) * b := by
  obtain ⟨before, after, rfl⟩ := List.append_of_mem hMem
  have hNot : owner ∉ before ++ after := by
    rw [List.nodup_middle, List.nodup_cons] at hNodup
    exact hNodup.1
  have hOthers : ∀ ps : List String, owner ∉ ps →
      (ps.map fun p => if owner = p then a else b).sum = ps.length * b := by
    intro ps hps
    have hConst : ps.map (fun p => if owner = p then a else b) =
        ps.map fun _ => b :=
      List.map_congr_left fun p hp =>
        if_neg fun (hEq : owner = p) => hps (hEq ▸ hp)
    rw [hConst, List.map_const', List.sum_replicate_nat]
  rw [List.mem_append, not_or] at hNot
  rw [List.map_append, List.map_cons, List.sum_append, List.sum_cons, if_pos rfl,
    hOthers before hNot.1, hOthers after hNot.2, List.length_append,
    List.length_cons]
  have hLength : before.length + (after.length + 1) - 1 =
      before.length + after.length := by omega
  rw [hLength, Nat.add_mul]
  omega

/-- The number of entries that satisfy `p`, which is told their group as well. -/
def countEntries (t : Table) (p : Group → Entry → Bool) : Nat :=
  (t.groups.map fun g => g.entries.countP (p g)).sum

/-- The first thing that the entry holds is a list of attributes. -/
def holdsAttributes (e : Entry) : Bool :=
  match e.values with
  | .styleable _ :: _ => true
  | _ => false

/-! ## Who has an entry -/

section

variable {t : Table} (hTable : t.WellFormed) {g : Group} (hg : g ∈ t.groups)
  {e : Entry} (he : e ∈ g.entries)

include hTable hg he

/-- In a well-formed table an entry is skipped exactly for foreign packages. -/
theorem fate_eq_skipped_iff (package : String) :
    fate t (some package) g e = .ok .skipped ↔ e.origin t.package ≠ package := by
  obtain ⟨id, -, hFate⟩ := fate_of_wellFormed package hTable hg he
  rw [hFate]
  by_cases hOrigin : e.origin t.package = package
  · simp only [ne_eq, hOrigin, not_true_eq_false, iff_false, if_true]
    split
    · simp
    · rw [Except.ok.injEq]
      exact declaration_ne_skipped g.kind id e.plainName e.values
  · have hClash : ¬ Clashes t.package package e :=
      fun hClash => hOrigin (clashes_iff.1 hClash).1
    simp [hOrigin, hClash]

/-- Of the listed packages exactly one has the entry. -/
theorem existsUnique_owner :
    ∃! p, p ∈ t.packages ∧ fate t (some p) g e ≠ .ok .skipped := by
  refine ⟨e.origin t.package, ⟨Entry.origin_mem_packages hg he, ?_⟩, ?_⟩
  · rw [ne_eq, fate_eq_skipped_iff hTable hg he]
    simp
  · rintro p ⟨-, hFate⟩
    rw [ne_eq, fate_eq_skipped_iff hTable hg he, not_not] at hFate
    exact hFate.symm

/-- What a package has of an entry that offends for no listed package. -/
theorem fate_eq_of_no_offence {p : String}
    (hNone : offence? t (some p) g e = none) :
    ∃ id, fate t (some p) g e =
      .ok (if e.origin t.package = p then
        declaration g.kind id e.plainName e.values else .skipped) := by
  obtain ⟨id, -, hFate⟩ := fate_of_wellFormed p hTable hg he
  rw [offence?_of_wellFormed hTable p hg he] at hNone
  have hClash : ¬ Clashes t.package p e := fun hClash => by
    rw [if_pos hClash] at hNone
    cases hNone
  refine ⟨id, ?_⟩
  rw [hFate, if_neg hClash]
  split <;> rfl

end

/-- What a declaration counts. -/
def declarationTally (kind : Resource.Kind) (e : Entry) : Tally :=
  if kind = .styleable then
    if holdsAttributes e then { styleables := 1 } else {}
  else { constants := 1 }

theorem tally_declaration (kind : Resource.Kind) (id : Resource.Id) (e : Entry) :
    (declaration kind id e.plainName e.values).tally = declarationTally kind e := by
  unfold declarationTally holdsAttributes
  by_cases hKind : kind = .styleable
  · simp only [if_pos hKind]
    cases e.values with
    | nil => simp [declaration, hKind, Fate.tally]
    | cons held more => cases held <;> simp [declaration, hKind, Fate.tally]
  · rw [if_neg hKind, declaration_of_ne hKind]
    rfl

/-! ## What the classes count -/

/-- A run without an offence counts an entry as its declaration or as skipped. -/
theorem count_runEntry {t : Table} (hTable : t.WellFormed) {g : Group}
    (hg : g ∈ t.groups) {e : Entry} (he : e ∈ g.entries) (style : Style)
    (count : Tally → Nat) {p : String} (hNone : offence? t (some p) g e = none) :
    count (runEntry style t (some p) g e).tally =
      if e.origin t.package = p then count (declarationTally g.kind e)
      else count { skipped := 1 } := by
  obtain ⟨id, hFate⟩ := fate_eq_of_no_offence hTable hg he hNone
  unfold runEntry
  rw [hFate]
  by_cases hOrigin : e.origin t.package = p
  · simp only [if_pos hOrigin, Fate.run, tally_declaration]
  · simp only [if_neg hOrigin, Fate.run, Fate.tally]

/-- Over the classes of all listed packages, an entry counts once as what is
declared for it and is skipped by all others. -/
theorem sum_count_packages {t : Table} (hTable : t.WellFormed) (style : Style)
    {count : Tally → Nat} (hCount : Tally.IsCount count)
    (hNone : ∀ p ∈ t.packages, ∀ g ∈ t.groups, ∀ e ∈ g.entries,
      offence? t (some p) g e = none) :
    (t.packages.map fun p => count (run style t (some p) p).tally).sum =
      (t.groups.map fun g => (g.entries.map fun e =>
        count (declarationTally g.kind e) +
          (t.packages.length - 1) * count { skipped := 1 }).sum).sum := by
  have hRuns : ∀ p ∈ t.packages, count (run style t (some p) p).tally =
      (t.groups.map fun g => (g.entries.map fun e =>
        count (runEntry style t (some p) g e).tally).sum).sum :=
    fun p hp => count_run style t (some p) hCount p (hNone p hp)
  rw [List.map_congr_left hRuns, sum_map_swap]
  refine congrArg List.sum (List.map_congr_left fun g hg => ?_)
  rw [sum_map_swap]
  refine congrArg List.sum (List.map_congr_left fun e he => ?_)
  have hEntry : ∀ p ∈ t.packages, count (runEntry style t (some p) g e).tally =
      if e.origin t.package = p then count (declarationTally g.kind e)
      else count { skipped := 1 } :=
    fun p hp => count_runEntry hTable hg he style count (hNone p hp g hg e he)
  rw [List.map_congr_left hEntry]
  exact sum_map_owner t.nodup_packages (Entry.origin_mem_packages hg he) _ _

private theorem sum_map_ite {α : Type} (xs : List α) (p : α → Bool) :
    (xs.map fun x => if p x = true then 1 else 0).sum = xs.countP p := by
  induction xs with
  | nil => rfl
  | cons x xs ih =>
      rw [List.map_cons, List.sum_cons, ih, List.countP_cons, Nat.add_comm]

/-- What is counted of declarations alone, over the classes of all listed
packages, is the number of entries that give such a declaration. -/
theorem sum_declarations {t : Table} (hTable : t.WellFormed) (style : Style)
    {count : Tally → Nat} (hCount : Tally.IsCount count)
    (hSkipped : count { skipped := 1 } = 0) (p : Group → Entry → Bool)
    (hDeclared : ∀ g e, count (declarationTally g.kind e) =
      if p g e = true then 1 else 0)
    (hNone : ∀ p ∈ t.packages, ∀ g ∈ t.groups, ∀ e ∈ g.entries,
      offence? t (some p) g e = none) :
    (t.packages.map fun p => count (run style t (some p) p).tally).sum =
      countEntries t p := by
  rw [sum_count_packages hTable style hCount hNone]
  simp only [hSkipped, Nat.mul_zero, Nat.add_zero, hDeclared, sum_map_ite,
    countEntries]

/-- The entries that give a constant. -/
def givesConstant (g : Group) (_ : Entry) : Bool := decide (g.kind ≠ .styleable)

/-- The entries that give an array. -/
def givesArray (g : Group) (e : Entry) : Bool :=
  decide (g.kind = .styleable) && holdsAttributes e

theorem constants_declarationTally (g : Group) (e : Entry) :
    (declarationTally g.kind e).constants =
      if givesConstant g e = true then 1 else 0 := by
  unfold declarationTally givesConstant
  by_cases hKind : g.kind = .styleable
  · cases hHolds : holdsAttributes e <;> simp [hKind]
  · simp [hKind]

theorem styleables_declarationTally (g : Group) (e : Entry) :
    (declarationTally g.kind e).styleables =
      if givesArray g e = true then 1 else 0 := by
  unfold declarationTally givesArray
  by_cases hKind : g.kind = .styleable
  · cases hHolds : holdsAttributes e <;> simp [hKind]
  · simp [hKind]

theorem entryCount_eq_sum (t : Table) :
    t.entryCount = (t.groups.map fun g => g.entries.length).sum :=
  List.length_flatMap

theorem sum_skipped {t : Table} (hTable : t.WellFormed) (style : Style)
    (hNone : ∀ p ∈ t.packages, ∀ g ∈ t.groups, ∀ e ∈ g.entries,
      offence? t (some p) g e = none) :
    (t.packages.map fun p => (run style t (some p) p).tally.skipped).sum =
      (t.packages.length - 1) * t.entryCount := by
  rw [sum_count_packages hTable style isCount_skipped hNone, entryCount_eq_sum,
    ← List.sum_map_mul_left]
  refine congrArg List.sum (List.map_congr_left fun g _ => ?_)
  have hOthers : g.entries.map (fun e => (declarationTally g.kind e).skipped +
      (t.packages.length - 1) * 1) = g.entries.map fun _ => t.packages.length - 1 := by
    refine List.map_congr_left fun e _ => ?_
    unfold declarationTally
    split
    · split <;> simp
    · simp
  rw [hOthers, List.map_const', List.sum_replicate_nat, Nat.mul_comm]

/-! ## Classes of other packages -/

/-- The text of a class that declares nothing: the block of each kind is empty. -/
def emptyClassText (t : Table) (package : String) : String :=
  classHeader package ++ "public final class R \x7b\n" ++
    String.join (t.groups.map fun g => blockOpening g.kind.tag ++ "    \x7d\n") ++ "\x7d\n"

/-- A class that declares no entry declares nothing. -/
theorem classText_eq_emptyClassText {style : Style} {t : Table} {p : String}
    (hOther : ∀ g ∈ t.groups, ∀ e ∈ g.entries, e.origin t.package ≠ p) :
    classText style t p = emptyClassText t p := by
  have hGroup : ∀ g ∈ t.groups, groupText style t p g =
      blockOpening g.kind.tag ++ "    \x7d\n" := by
    intro g hg
    have hEntries : String.join (g.entries.map (entryText style t p g)) = "" := by
      rw [List.map_congr_left (g := fun _ => "") fun e he =>
        entryText_of_ne style (hOther g hg e he)]
      induction g.entries with
      | nil => rfl
      | cons e es ih => rw [List.map_cons, String.join_cons, ih, String.empty_append]
    rw [groupText, hEntries, String.append_empty]
  rw [classText, emptyClassText, List.map_congr_left hGroup]

section

variable {t : Table} (hTable : t.WellFormed) {p : String} (hp : p ∉ t.packages)

include hp in
private theorem origin_ne_of_not_mem {g : Group} (hg : g ∈ t.groups) {e : Entry}
    (he : e ∈ g.entries) : e.origin t.package ≠ p := by
  rintro rfl
  exact hp (Entry.origin_mem_packages hg he)

include hTable hp

private theorem runEntry_of_not_mem (style : Style) {g : Group} (hg : g ∈ t.groups)
    {e : Entry} (he : e ∈ g.entries) :
    runEntry style t (some p) g e = Fate.skipped.run style t.package := by
  unfold runEntry
  rw [(fate_eq_skipped_iff hTable hg he p).2 (origin_ne_of_not_mem hp hg he)]

private theorem offence?_of_not_mem :
    ∀ g ∈ t.groups, ∀ e ∈ g.entries, offence? t (some p) g e = none := by
  intro g hg e he
  rw [← offence_runEntry ⟨true⟩, runEntry_of_not_mem hTable hp ⟨true⟩ hg he]
  rfl

/-- The class of a package that is not listed is complete and empty, and all
entries are counted as skipped. -/
theorem generate_of_not_mem_packages (style : Style) {sink : Sink}
    (hSink : sink.TakesAll style t p) :
    (generate style t (.text p) sink).outcome =
        .ok (.complete (summaryOf style t p)) ∧
      (generate style t (.text p) sink).written = emptyClassText t p ∧
      (summaryOf style t p).tally = { skipped := t.entryCount } := by
  have hNone := offence?_of_not_mem hTable hp
  have hCounts : ∀ {count : Tally → Nat}, Tally.IsCount count →
      count (run style t (some p) p).tally =
        (t.groups.map fun g => (g.entries.map fun _ =>
          count { skipped := 1 }).sum).sum := by
    intro count hCount
    rw [count_run style t (some p) hCount p hNone]
    refine congrArg List.sum (List.map_congr_left fun g hg => ?_)
    refine congrArg List.sum (List.map_congr_left fun e he => ?_)
    rw [runEntry_of_not_mem hTable hp style hg he]
    rfl
  refine ⟨?_, ?_, ?_⟩
  · rw [outcome_generate hSink, (offence_run_eq_none_iff style t (some p) p).2 hNone]
  · rw [written_generate hSink, join_pieces_run_eq_classText style hNone,
      classText_eq_emptyClassText fun g hg e he => origin_ne_of_not_mem hp hg he]
  · have hConstants := hCounts isCount_constants
    have hStyleables := hCounts isCount_styleables
    have hSkipped := hCounts isCount_skipped
    simp only [List.map_const', List.sum_replicate_nat, Nat.mul_zero,
      Nat.mul_one] at hConstants hStyleables hSkipped
    show (run style t (some p) p).tally = _
    rw [Tally.mk.injEq, entryCount_eq_sum]
    exact ⟨hConstants, hStyleables, hSkipped⟩

end

/-! ## The whole table -/

/-- An entry has one text among the classes of the listed packages: the one that the class
of its package has. -/
theorem exists_only_entryText (style : Style) {t : Table} {g : Group} (hg : g ∈ t.groups)
    {e : Entry} (he : e ∈ g.entries) {text : String}
    (hText : entryText style t (e.origin t.package) g e = text) :
    ∃ p ∈ t.packages, entryText style t p g e = text ∧
      ∀ q ∈ t.packages, q ≠ p → entryText style t q g e = "" :=
  ⟨_, Entry.origin_mem_packages hg he, hText,
    fun _ _ hOther => entryText_of_ne style (Ne.symm hOther)⟩

/-- The classes of the listed packages share the entries of a table that was read
out among them, and the classes of all other packages are empty.  If the classes are
complete, each is written as a whole, and in one of them an entry has its text: the line of
a constant with its identifier, or an array with a line for each index. -/
theorem classes_partition {document : Json.Value} {t : Table}
    (hRead : Table.ofDocument document = .ok t) (style : Style)
    (sinks : String → Sink) :
    (∃ others, t.packages = t.package :: others ∧ others.Pairwise (· < ·) ∧
      t.package ∉ others) ∧
    (∀ g ∈ t.groups, ∀ e ∈ g.entries,
      ∃! p, p ∈ t.packages ∧ fate t (some p) g e ≠ .ok .skipped) ∧
    (∀ summaries : String → Summary,
      (∀ p ∈ t.packages, (generate style t (.text p) (sinks p)).outcome =
        .ok (.complete (summaries p))) →
      (∀ p ∈ t.packages,
        (generate style t (.text p) (sinks p)).written = classText style t p) ∧
      (∀ g ∈ t.groups, g.kind ≠ .styleable → ∀ e ∈ g.entries,
        ∃ p ∈ t.packages,
          entryText style t p g e = constantLine style (Symbol.transform e.plainName)
            ("0x" ++ String.ofList
              (Text.hexDigits 8 (packed t.number g.number e.number).toNat)) ∧
          ∀ q ∈ t.packages, q ≠ p → entryText style t q g e = "") ∧
      (∀ g ∈ t.groups, g.kind = .styleable → ∀ e ∈ g.entries,
        ∀ attributes more, e.values = .styleable attributes :: more →
        ∃ body, elements body =
            (arrange attributes).map (fun a => some (a.id.number : Int)) ∧
          ∃ p ∈ t.packages,
            entryText style t p g e = arrayText (Symbol.transform e.plainName) body ++
              String.join
                (indexLines style t.package e.plainName 0 (arrange attributes)) ∧
            ∀ q ∈ t.packages, q ≠ p → entryText style t q g e = "") ∧
      (t.packages.map fun p => (summaries p).tally.constants).sum =
        countEntries t givesConstant ∧
      (t.packages.map fun p => (summaries p).tally.styleables).sum =
        countEntries t givesArray ∧
      (t.packages.map fun p => (summaries p).tally.skipped).sum =
        (t.packages.length - 1) * t.entryCount) ∧
    ∀ p ∉ t.packages, (sinks p).TakesAll style t p →
      ∃ s, (generate style t (.text p) (sinks p)).outcome = .ok (.complete s) ∧
        (generate style t (.text p) (sinks p)).written = emptyClassText t p ∧
        s.tally = { skipped := t.entryCount } := by
  have hTable := Table.wellFormed_of_ofDocument hRead
  refine ⟨t.packages_eq_cons, fun g hg e he => existsUnique_owner hTable hg he,
    ?_, fun p hp hSink => ⟨_, generate_of_not_mem_packages hTable hp style hSink⟩⟩
  intro summaries hComplete
  have hNone : ∀ p ∈ t.packages, ∀ g ∈ t.groups, ∀ e ∈ g.entries,
      offence? t (some p) g e = none := fun p hp =>
    (offence_run_eq_none_iff style t (some p) p).1
      (complete_of_outcome (hComplete p hp)).2.1
  have hSummaries : ∀ count : Tally → Nat,
      t.packages.map (fun p => count (summaries p).tally) =
        t.packages.map fun p => count (run style t (some p) p).tally :=
    fun count => List.map_congr_left fun p hp => by
      rw [(complete_of_outcome (hComplete p hp)).2.2]
      rfl
  refine ⟨fun p hp => written_eq_classText style (hComplete p hp), ?_, ?_, ?_, ?_, ?_⟩
  · intro g hg hKind e he
    exact exists_only_entryText style hg he (entryText_constant style rfl hKind)
  · intro g hg hKind e he attributes more hValues
    refine ⟨arrayBody ((arrange attributes).map Attribute.id), ?_,
      exists_only_entryText style hg he (entryText_array style rfl hKind hValues)⟩
    rw [← join_itemPieces_eq_arrayBody, elements_itemPieces, List.map_map]
    rfl
  · rw [hSummaries Tally.constants]
    exact sum_declarations hTable style isCount_constants rfl givesConstant
      constants_declarationTally hNone
  · rw [hSummaries Tally.styleables]
    exact sum_declarations hTable style isCount_styleables rfl givesArray
      styleables_declarationTally hNone
  · rw [hSummaries Tally.skipped]
    exact sum_skipped hTable style hNone

/-- A table with names that hold the separator in every place: an own entry, one
imported from the own package, one from the package without a name, one whose
plain name is mangled again, and an imported styleable. -/
def sharedTable : Table :=
  { package := "app"
    number := 0x7F
    groups := [
      { kind := .string
        number := 1
        entries := [⟨"title", 0, []⟩, ⟨"app$title", 1, []⟩, ⟨"$a", 2, []⟩,
          ⟨"lib$a$b", 3, []⟩] },
      { kind := .styleable
        number := 2
        entries := [
          ⟨"lib$View", 0, [.styleable [⟨.ofWords 1 1 0, ⟨"a", .attr, "b"⟩⟩]]⟩,
          ⟨"Box", 1, [.item .null]⟩] }] }

/-- A document of `sharedTable`. -/
def sharedDocument : Json.Value :=
  .object [("package", .text "app"), ("id", .int 0x7F), ("types", .list [
    .object [("type", .text "string"), ("id", .int 1), ("entries", .list [
      .object [("name", .text "title"), ("id", .int 0)],
      .object [("name", .text "app$title"), ("id", .int 1)],
      .object [("name", .text "$a"), ("id", .int 2)],
      .object [("name", .text "lib$a$b"), ("id", .int 3)]])],
    .object [("type", .text "styleable"), ("id", .int 2), ("entries", .list [
      .object [("name", .text "lib$View"), ("id", .int 0), ("values", .list [
        .object [("styleable", .list [
          .object [("id", .text "0x01010000"), ("name", .text "a:b")]])]])],
      .object [("name", .text "Box"), ("id", .int 1),
        ("values", .list [.null])]])]])]

theorem classes_partition_sharedDocument :
    Table.ofDocument sharedDocument = .ok sharedTable ∧
      sharedTable.packages = ["app", "", "lib"] ∧
      (∀ p ∈ sharedTable.packages,
        (generate ⟨true⟩ sharedTable (.text p) {}).outcome =
          .ok (.complete (summaryOf ⟨true⟩ sharedTable p))) ∧
      (∀ p ∈ sharedTable.packages,
        (generate ⟨true⟩ sharedTable (.text p) {}).written =
          classText ⟨true⟩ sharedTable p) ∧
      (sharedTable.packages.map fun p =>
        (summaryOf ⟨true⟩ sharedTable p).tally.constants).sum =
          countEntries sharedTable givesConstant ∧
      "other" ∉ sharedTable.packages ∧
      ∃ s, (generate ⟨true⟩ sharedTable (.text "other") {}).outcome =
          .ok (.complete s) ∧
        (generate ⟨true⟩ sharedTable (.text "other") {}).written =
          emptyClassText sharedTable "other" ∧
        s.tally = { skipped := sharedTable.entryCount } := by
  have hRead : Table.ofDocument sharedDocument = .ok sharedTable := rfl
  have hPackages : sharedTable.packages = ["app", "", "lib"] := by
    decide +kernel
  have hOther : "other" ∉ sharedTable.packages := by
    rw [hPackages]
    decide
  have hPlain : (sharedTable.groups.all fun g => g.entries.all fun e =>
      !Symbol.isReserved e.plainName) = true := by decide +kernel
  obtain ⟨-, -, hSums, hEmpty⟩ :=
    classes_partition hRead ⟨true⟩ fun _ => {}
  have hComplete : ∀ p ∈ sharedTable.packages,
      (generate ⟨true⟩ sharedTable (.text p) {}).outcome =
        .ok (.complete (summaryOf ⟨true⟩ sharedTable p)) := by
    intro p hp
    have hNone : (run ⟨true⟩ sharedTable (some p) p).offence = none := by
      rw [offence_run_eq_none_iff]
      intro g hg e he
      have hTable := Table.wellFormed_of_ofDocument hRead
      rw [offence?_of_wellFormed hTable p hg he, if_neg]
      intro hClash
      have hWord := List.all_eq_true.1 (List.all_eq_true.1 hPlain g hg) e he
      simp [(clashes_iff.1 hClash).2] at hWord
    rw [outcome_generate (takesAll_of_unlimited rfl rfl), hNone]
  obtain ⟨hWritten, -, -, hConstants, -⟩ := hSums _ hComplete
  exact ⟨hRead, hPackages, hComplete, hWritten, hConstants, hOther,
    hEmpty "other" hOther (takesAll_of_unlimited rfl rfl)⟩

end ResourceSymbols.RClass
