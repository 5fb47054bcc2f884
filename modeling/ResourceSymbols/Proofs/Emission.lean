import Mathlib.Algebra.Ring.Nat
import ResourceSymbols.Proofs.Fate
import ResourceSymbols.RClass.Generation

/-!
# What a run writes and where it stops

A run over a table is a row of smaller runs, one for each entry.  It stops at the
first entry that offends, and until then writes and counts what each entry gives.

## Main results

* `offence_run` — a run stops at the first offence in the order of the table.
* `pieces_run`, `count_run` — what a run without an offence writes and counts.
* `runEntry_infix_run` — what an entry gives is written in one stretch.
-/

namespace ResourceSymbols.RClass

open Resource (Entry Group Table)

/-! ## Rows of runs -/

namespace Run

/-- The runs one after the other, until one stops. -/
def all (rs : List Run) : Run := rs.foldr andThen done

theorem offence_andThen (a b : Run) :
    (a.andThen b).offence = a.offence.or b.offence := by
  unfold andThen
  cases hOffence : a.offence with
  | none => rfl
  | some o => simp [hOffence]

/-- What was written before goes on to stand first. -/
theorem pieces_prefix_andThen (a b : Run) :
    a.pieces <+: (a.andThen b).pieces := by
  unfold andThen
  cases a.offence with
  | none => exact List.prefix_append _ _
  | some o => exact List.prefix_rfl

theorem all_append (rs ss : List Run) :
    all (rs ++ ss) = (all rs).andThen (all ss) := by
  induction rs with
  | nil => exact (done_andThen _).symm
  | cons r rs ih =>
      show r.andThen (all (rs ++ ss)) = (r.andThen (all rs)).andThen (all ss)
      rw [ih, andThen_assoc]

theorem offence_all (rs : List Run) :
    (all rs).offence = rs.findSome? Run.offence := by
  induction rs with
  | nil => rfl
  | cons r rs ih =>
      show (r.andThen (all rs)).offence = _
      rw [offence_andThen, ih, List.findSome?_cons]
      cases r.offence <;> rfl

theorem offence_all_eq_none {rs : List Run} (hNone : ∀ r ∈ rs, r.offence = none) :
    (all rs).offence = none := by
  rw [offence_all, List.findSome?_eq_none_iff]
  exact hNone

theorem pieces_all {rs : List Run} (hNone : ∀ r ∈ rs, r.offence = none) :
    (all rs).pieces = rs.flatMap Run.pieces := by
  induction rs with
  | nil => rfl
  | cons r rs ih =>
      have hTail := ih fun s hs => hNone s (List.mem_cons_of_mem _ hs)
      show (r.andThen (all rs)).pieces = _
      rw [pieces_andThen (hNone r List.mem_cons_self), hTail, List.flatMap_cons]

/-- What one of the runs writes stands in one stretch, if none before it stops. -/
theorem infix_all {rs : List Run} (hNone : ∀ r ∈ rs, r.offence = none) (r : Run)
    (ss : List Run) : r.pieces <:+: (all (rs ++ r :: ss)).pieces := by
  rw [all_append, pieces_andThen (offence_all_eq_none hNone)]
  have hHead : r.pieces <+: (all (r :: ss)).pieces := pieces_prefix_andThen r (all ss)
  exact hHead.isInfix.trans (List.suffix_append _ _).isInfix

end Run

/-- A number that is read off a tally and adds up along a run. -/
structure Tally.IsCount (count : Tally → Nat) : Prop where
  zero : count {} = 0
  add : ∀ a b, count (a.add b) = count a + count b

theorem isCount_constants : Tally.IsCount Tally.constants := ⟨rfl, fun _ _ => rfl⟩

theorem isCount_styleables : Tally.IsCount Tally.styleables := ⟨rfl, fun _ _ => rfl⟩

theorem isCount_skipped : Tally.IsCount Tally.skipped := ⟨rfl, fun _ _ => rfl⟩

theorem Run.count_andThen {count : Tally → Nat} (hCount : Tally.IsCount count)
    {a : Run} (hNone : a.offence = none) (b : Run) :
    count (a.andThen b).tally = count a.tally + count b.tally := by
  simp only [Run.andThen, hNone, hCount.add]

theorem Run.count_all {count : Tally → Nat} (hCount : Tally.IsCount count)
    {rs : List Run} (hNone : ∀ r ∈ rs, r.offence = none) :
    count (Run.all rs).tally = (rs.map fun r => count r.tally).sum := by
  induction rs with
  | nil => exact hCount.zero
  | cons r rs ih =>
      have hTail := ih fun s hs => hNone s (List.mem_cons_of_mem _ hs)
      show count (r.andThen (Run.all rs)).tally = _
      rw [Run.count_andThen hCount (hNone r List.mem_cons_self), hTail,
        List.map_cons, List.sum_cons]

/-! ## The runs of a table -/

section

variable (style : Style) (t : Table) (package : Option String)

/-- The offence of an entry, if it offends. -/
def offence? (g : Group) (e : Entry) : Option Offence :=
  match fate t package g e with
  | .error o => some o
  | .ok _ => none

/-- The run over one entry. -/
def runEntry (g : Group) (e : Entry) : Run :=
  match fate t package g e with
  | .error o => .stopped o
  | .ok f => f.run style t.package

theorem offence_runEntry (g : Group) (e : Entry) :
    (runEntry style t package g e).offence = offence? t package g e := by
  unfold runEntry offence?
  split <;> rfl

/-- An entry that does not offend writes its declaration if it belongs to the
package, and else nothing. -/
theorem pieces_runEntry {package : String} {g : Group} {e : Entry}
    (hNone : offence? t (some package) g e = none) :
    ∃ id, Resource.Id.ofParts t.number g.number e.number = .ok id ∧
      (runEntry style t (some package) g e).pieces =
        if e.origin t.package = package then
          (declaration g.kind id e.plainName e.values).pieces style t.package
        else [] := by
  unfold offence? at hNone
  unfold runEntry
  cases hFate : fate t (some package) g e with
  | error o =>
      rw [hFate] at hNone
      cases hNone
  | ok f =>
      obtain ⟨id, hId, -, rfl⟩ := fate_eq_ok hFate
      refine ⟨id, hId, ?_⟩
      by_cases hOrigin : e.origin t.package = package
      · rw [if_pos hOrigin, if_pos hOrigin]
        rfl
      · rw [if_neg hOrigin, if_neg hOrigin]
        rfl

theorem runEntries_eq_all (g : Group) (es : List Entry) :
    runEntries style t package g es =
      .all (es.map (runEntry style t package g)) := by
  induction es with
  | nil => rfl
  | cons e es ih =>
      show _ = (runEntry style t package g e).andThen _
      rw [runEntries, runEntry, ih]
      cases fate t package g e with
      | error o => rfl
      | ok f => rfl

theorem runGroups_eq_all (gs : List Group) :
    runGroups style t package gs = .all (gs.map (runGroup style t package)) := by
  induction gs with
  | nil => rfl
  | cons g gs ih => rw [runGroups, ih]; rfl

theorem offence_runGroup (g : Group) :
    (runGroup style t package g).offence =
      g.entries.findSome? (offence? t package g) := by
  rw [runGroup, Run.offence_andThen, Run.offence_andThen, runEntries_eq_all,
    Run.offence_all, List.findSome?_map]
  simp only [Run.writing, Option.none_or, Option.or_none, Function.comp_def,
    offence_runEntry]

/-- A run stops at the first offence in the order of the table. -/
theorem offence_run (label : String) :
    (run style t package label).offence =
      t.groups.findSome? fun g => g.entries.findSome? (offence? t package g) := by
  rw [run, Run.offence_andThen, Run.offence_andThen, runGroups_eq_all,
    Run.offence_all, List.findSome?_map]
  simp only [Run.writing, Option.none_or, Option.or_none, Function.comp_def,
    offence_runGroup]

theorem offence_run_eq_none_iff (label : String) :
    (run style t package label).offence = none ↔
      ∀ g ∈ t.groups, ∀ e ∈ g.entries, offence? t package g e = none := by
  simp only [offence_run, List.findSome?_eq_none_iff]

/-! ## Runs without an offence -/

/-- The pieces of a group: its opening, what each entry gives, and its
closing. -/
def groupPieces (g : Group) : List String :=
  groupOpeningText g.kind.tag ::
    (g.entries.flatMap fun e => (runEntry style t package g e).pieces) ++
      [groupClosingText]

section

variable {es : List Entry} {gs : List Group} {g : Group}

private theorem entryRuns_offence
    (hNone : ∀ e ∈ es, offence? t package g e = none) :
    ∀ r ∈ es.map (runEntry style t package g), r.offence = none := by
  intro r hr
  obtain ⟨e, he, rfl⟩ := List.mem_map.1 hr
  rw [offence_runEntry]
  exact hNone e he

private theorem groupRuns_offence
    (hNone : ∀ g ∈ gs, ∀ e ∈ g.entries, offence? t package g e = none) :
    ∀ r ∈ gs.map (runGroup style t package), r.offence = none := by
  intro r hr
  obtain ⟨g, hg, rfl⟩ := List.mem_map.1 hr
  rw [offence_runGroup, List.findSome?_eq_none_iff]
  exact hNone g hg

theorem pieces_runGroup
    (hNone : ∀ e ∈ g.entries, offence? t package g e = none) :
    (runGroup style t package g).pieces = groupPieces style t package g := by
  have hRuns := entryRuns_offence style t package hNone
  rw [runGroup, runEntries_eq_all, Run.pieces_andThen rfl,
    Run.pieces_andThen (Run.offence_all_eq_none hRuns), Run.pieces_all hRuns,
    List.flatMap_map]
  rfl

/-- A run without an offence writes every group in its place. -/
theorem pieces_run (label : String)
    (hNone : ∀ g ∈ t.groups, ∀ e ∈ g.entries, offence? t package g e = none) :
    (run style t package label).pieces =
      [headerText label, openingText] ++
        t.groups.flatMap (groupPieces style t package) ++ [closingText] := by
  have hRuns := groupRuns_offence style t package hNone
  have hPieces : t.groups.flatMap (fun g => (runGroup style t package g).pieces) =
      t.groups.flatMap (groupPieces style t package) :=
    List.flatMap_congr fun g hg => pieces_runGroup style t package (hNone g hg)
  rw [run, runGroups_eq_all, Run.pieces_andThen rfl,
    Run.pieces_andThen (Run.offence_all_eq_none hRuns), Run.pieces_all hRuns,
    List.flatMap_map, hPieces, List.append_assoc]
  rfl

theorem count_runGroup {count : Tally → Nat} (hCount : Tally.IsCount count)
    (hNone : ∀ e ∈ g.entries, offence? t package g e = none) :
    count (runGroup style t package g).tally =
      (g.entries.map fun e => count (runEntry style t package g e).tally).sum := by
  have hRuns := entryRuns_offence style t package hNone
  rw [runGroup, runEntries_eq_all, Run.count_andThen hCount rfl,
    Run.count_andThen hCount (Run.offence_all_eq_none hRuns),
    Run.count_all hCount hRuns, List.map_map]
  simp only [Run.writing, hCount.zero, Nat.zero_add, Nat.add_zero,
    Function.comp_def]

/-- A run without an offence counts what each entry gives. -/
theorem count_run {count : Tally → Nat} (hCount : Tally.IsCount count)
    (label : String)
    (hNone : ∀ g ∈ t.groups, ∀ e ∈ g.entries, offence? t package g e = none) :
    count (run style t package label).tally =
      (t.groups.map fun g =>
        (g.entries.map fun e =>
          count (runEntry style t package g e).tally).sum).sum := by
  have hRuns := groupRuns_offence style t package hNone
  rw [run, runGroups_eq_all, Run.count_andThen hCount rfl,
    Run.count_andThen hCount (Run.offence_all_eq_none hRuns),
    Run.count_all hCount hRuns, List.map_map]
  simp only [Run.writing, hCount.zero, Nat.zero_add, Nat.add_zero]
  exact congrArg List.sum (List.map_congr_left fun g hg =>
    count_runGroup style t package hCount (hNone g hg))

end

/-! ## What comes before an offence -/

/-- The run over the table comes to the entry: nothing before it offends. -/
def Reached (g : Group) (e : Entry) : Prop :=
  ∃ gs₁ gs₂ es₁ es₂, t.groups = gs₁ ++ g :: gs₂ ∧ g.entries = es₁ ++ e :: es₂ ∧
    (∀ h ∈ gs₁, ∀ d ∈ h.entries, offence? t package h d = none) ∧
    ∀ d ∈ es₁, offence? t package g d = none

/-- What an entry gives is written in one stretch, whatever comes after it. -/
theorem runEntry_infix_run (label : String) {g : Group} {e : Entry}
    (hReached : Reached t package g e) :
    (runEntry style t package g e).pieces <:+:
      (run style t package label).pieces := by
  obtain ⟨gs₁, gs₂, es₁, es₂, hGroups, hEntries, hBefore, hBefore'⟩ := hReached
  have hEntry : (runEntry style t package g e).pieces <:+:
      (runEntries style t package g g.entries).pieces := by
    rw [runEntries_eq_all, hEntries, List.map_append, List.map_cons]
    exact Run.infix_all (entryRuns_offence style t package hBefore') _ _
  have hGroup : (runEntries style t package g g.entries).pieces <:+:
      (runGroup style t package g).pieces := by
    rw [runGroup, Run.pieces_andThen rfl]
    exact (Run.pieces_prefix_andThen _ _).isInfix.trans
      (List.suffix_append _ _).isInfix
  have hTable : (runGroup style t package g).pieces <:+:
      (runGroups style t package t.groups).pieces := by
    rw [runGroups_eq_all, hGroups, List.map_append, List.map_cons]
    exact Run.infix_all (groupRuns_offence style t package hBefore) _ _
  have hRun : (runGroups style t package t.groups).pieces <:+:
      (run style t package label).pieces := by
    rw [run, Run.pieces_andThen rfl]
    exact (Run.pieces_prefix_andThen _ _).isInfix.trans
      (List.suffix_append _ _).isInfix
  exact hEntry.trans (hGroup.trans (hTable.trans hRun))

end

/-! ## Generations -/

section

variable {style : Style} {t : Table} {package : String} {sink : Sink}

/-- The sink takes all that the run over the table writes. -/
def Sink.TakesAll (sink : Sink) (style : Style) (t : Table) (package : String) :
    Prop :=
  (sink.takeFrom 0 (run style t (some package) package).pieces).2 = none

/-- A sink without an end that does not encode never fails. -/
theorem takeFrom_of_unlimited (hRoom : sink.room = none) (hPlain : sink.isEncoded = false)
    (count : Nat) (pieces : List String) : (sink.takeFrom count pieces).2 = none := by
  induction pieces generalizing count with
  | nil => rfl
  | cons piece pieces ih =>
      have hRefusal : sink.refusal? count piece = none := by
        simp [Sink.refusal?, hRoom, hPlain]
      rw [Sink.takeFrom, hRefusal]
      exact ih (count + 1)

/-- A sink that never fails takes all. -/
theorem takesAll_of_unlimited (hRoom : sink.room = none) (hPlain : sink.isEncoded = false) :
    sink.TakesAll style t package := takeFrom_of_unlimited hRoom hPlain 0 _

/-- What a generation found, if it was not interrupted. -/
def summaryOf (style : Style) (t : Table) (package : String) : Summary :=
  { target := .text package
    tablePackage := t.package
    groupCount := t.groups.length
    tally := (run style t (some package) package).tally }

/-- A generation into a sink that takes all writes what the run writes. -/
theorem written_generate (hSink : sink.TakesAll style t package) :
    (generate style t (.text package) sink).written =
      String.join (run style t (some package) package).pieces := by
  simp only [generate, Target.of?, Json.Value.shown?, Option.map_some,
    Target.package?, Json.Value.text?, Sink.takeFrom_of_none hSink]
  split <;> rfl

/-- A generation into a sink that takes all ends as the run ends. -/
theorem outcome_generate (hSink : sink.TakesAll style t package) :
    (generate style t (.text package) sink).outcome =
      match (run style t (some package) package).offence with
      | none => .ok (.complete (summaryOf style t package))
      | some (.reserved name) =>
          .ok (.aborted (summaryOf style t package) (.reserved name))
      | some o => .error (.offence o) := by
  simp only [generate, Target.of?, Json.Value.shown?, Option.map_some,
    Target.package?, Json.Value.text?, Sink.takeFrom_of_none hSink, summaryOf]
  generalize run style t (some package) package = r
  obtain ⟨pieces, tally, silent, offence⟩ := r
  cases offence with
  | none => rfl
  | some o => cases o <;> rfl

/-- A sink that refuses a piece interrupts the generation, and holds the pieces before. -/
theorem generate_of_refusal {i : Interruption}
    (hRefusal : (sink.takeFrom 0 (run style t (some package) package).pieces).2 = some i) :
    (generate style t (.text package) sink).written =
        String.join (sink.takeFrom 0 (run style t (some package) package).pieces).1 ∧
      (generate style t (.text package) sink).outcome = .error i := by
  simp only [generate, Target.of?, Json.Value.shown?, Option.map_some, Target.package?,
    Json.Value.text?, hRefusal, and_self]

/-- A generation that ends with a complete class met no offence, and its sink took
all. -/
theorem complete_of_outcome {s : Summary}
    (hComplete : (generate style t (.text package) sink).outcome =
      .ok (.complete s)) :
    sink.TakesAll style t package ∧
      (run style t (some package) package).offence = none ∧
      s = summaryOf style t package := by
  cases hRefusal : (sink.takeFrom 0 (run style t (some package) package).pieces).2 with
  | none =>
      have hSink : sink.TakesAll style t package := hRefusal
      rw [outcome_generate hSink] at hComplete
      split at hComplete
      · rename_i hNone
        exact ⟨hSink, hNone, (Result.complete.inj (Except.ok.inj hComplete)).symm⟩
      · cases hComplete
      · cases hComplete
  | some i =>
      rw [(generate_of_refusal hRefusal).2] at hComplete
      cases hComplete

end

end ResourceSymbols.RClass
