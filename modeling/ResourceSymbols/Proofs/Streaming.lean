import ResourceSymbols.Proofs.AbortPoint
import ResourceSymbols.Proofs.Outcome

/-!
# Classes that are written piece by piece

A generation hands its pieces to the sink one at a time, between its checks, and a sink
that refuses a piece fails in the middle of it.  Here the generation is told in that way, as steps
that may be interrupted anywhere, and shown to be the one that makes its run first and
then asks how much of it the sink takes.  So a sink that fails leaves the first pieces of
what an unlimited sink is handed, and the failure is all that is reported.

## Main results

* `Performs.andThen`, `Performs.all` — steps that are performed one after the other.
* `performs_entry`, `performs_group`, `performs_table` — what the steps hand over is the
  run.
* `generate_eq_streamed` — the generation is its steps, for every sink.
* `generateGuarded_cut_short` — a sink that fails only cuts the class short.
-/

namespace ResourceSymbols.RClass

open Resource (Entry Group Table)
open ResourceSymbols.Outcome (run_bind)

/-! ## Steps of a generation -/

/-- What a generation did so far: the pieces that its sink took, and its tally. -/
structure Feed where
  taken : List String := []
  tally : Tally := {}

/-- A step of a generation.  What it did stays done when it is interrupted. -/
abbrev Step := ExceptT Interruption (StateM Feed)

/-- Hands a piece to the sink, which may refuse it. -/
def hand (sink : Sink) (piece : String) : Step Unit := do
  let feed ← get
  match sink.refusal? feed.taken.length piece with
  | none => set { feed with taken := feed.taken ++ [piece] }
  | some i => throw i

/-- Adds to the tally. -/
def count (tally : Tally) : Step Unit :=
  modify fun feed => { feed with tally := feed.tally.add tally }

/-- Checks an entry, and hands over what is declared for it. -/
def handEntry (style : Style) (t : Table) (package : Option String) (g : Group) (e : Entry)
    (sink : Sink) : Step Unit :=
  match fate t package g e with
  | .error o => throw (.offence o)
  | .ok f => do
    (f.pieces style t.package).forM (hand sink)
    count f.tally

/-- Hands over the class of a kind. -/
def handGroup (style : Style) (t : Table) (package : Option String) (g : Group) (sink : Sink) :
    Step Unit := do
  hand sink (groupOpeningText g.kind.tag)
  g.entries.forM fun e => handEntry style t package g e sink
  hand sink groupClosingText

/-- Hands over the whole class. -/
def handTable (style : Style) (t : Table) (package : Option String) (label : String)
    (sink : Sink) : Step Unit := do
  hand sink (headerText label)
  hand sink openingText
  t.groups.forM fun g => handGroup style t package g sink
  hand sink closingText

/-! ## What steps do to a sink -/

/-- How a run ends. -/
def Run.ending (r : Run) : Except Interruption Unit :=
  match r.offence with
  | none => .ok ()
  | some o => .error (.offence o)

/-- A sink refuses a piece for what is wrong with the piece or the sink, and not for an
entry. -/
theorem Sink.refusal_ne_offence {sink : Sink} {count : Nat} {pieces : List String}
    {i : Interruption} (hRefusal : (sink.takeFrom count pieces).2 = some i) (o : Offence) :
    i ≠ .offence o := by
  fun_induction Sink.takeFrom sink count pieces with
  | case1 => cases hRefusal
  | case2 count piece pieces j hRefuses =>
      obtain rfl := Option.some.inj hRefusal
      unfold Sink.refusal? at hRefuses
      split at hRefuses
      · rintro rfl
        cases hRefuses
      · split at hRefuses
        · split at hRefuses
          · cases hRefuses
          · rintro rfl
            cases hRefuses
        · cases hRefuses
  | case3 count piece pieces hTakes taken refusal hRest ih =>
      rw [hRest] at ih
      exact ih hRefusal

/-- Whatever the sink took before, the step hands it the pieces of the run, counts its
tally and ends as it ends.  If the sink refuses one of them, it takes those before it, and
the step is interrupted as the sink says. -/
structure Performs (x : Sink → Step Unit) (r : Run) : Prop where
  whole : ∀ sink feed, (sink.takeFrom feed.taken.length r.pieces).2 = none →
    (x sink).run.run feed =
      (r.ending, { taken := feed.taken ++ r.pieces, tally := feed.tally.add r.tally })
  cut : ∀ sink feed i, (sink.takeFrom feed.taken.length r.pieces).2 = some i →
    ∃ tally, (x sink).run.run feed =
      (.error i,
        { taken := feed.taken ++ (sink.takeFrom feed.taken.length r.pieces).1, tally })

section

variable {x y : Sink → Step Unit} {a b : Run}

/-- One step after the other performs one run after the other. -/
theorem Performs.andThen (hx : Performs x a) (hy : Performs y b) :
    Performs (fun sink => do x sink; y sink) (a.andThen b) := by
  cases hOffence : a.offence with
  | some o =>
      -- The second step is not reached.
      have hRun : a.andThen b = a := by simp only [Run.andThen, hOffence]
      have hEnding : a.ending = .error (.offence o) := by rw [Run.ending, hOffence]
      rw [hRun]
      refine { whole := fun sink feed hTakes => ?_, cut := fun sink feed i hRefuses => ?_ }
      · rw [run_bind, hx.whole sink feed hTakes, hEnding]
      · obtain ⟨tally, hCut⟩ := hx.cut sink feed i hRefuses
        exact ⟨tally, by rw [run_bind, hCut]⟩
  | none =>
      have hEnding : a.ending = .ok () := by rw [Run.ending, hOffence]
      have hEnds : (a.andThen b).ending = b.ending := by
        simp only [Run.ending, Run.andThen, hOffence]
      have hTally : (a.andThen b).tally = a.tally.add b.tally := by
        simp only [Run.andThen, hOffence]
      have hAfter : ∀ feed : Feed, feed.taken.length + a.pieces.length =
          (feed.taken ++ a.pieces).length := fun feed => (List.length_append).symm
      refine { whole := fun sink feed hTakes => ?_, cut := fun sink feed i hRefuses => ?_ }
      · rw [Run.pieces_andThen hOffence] at hTakes ⊢
        cases hFirst : (sink.takeFrom feed.taken.length a.pieces).2 with
        | some i =>
            rw [Sink.takeFrom_append_of_some hFirst, hFirst] at hTakes
            cases hTakes
        | none =>
            rw [Sink.takeFrom_append_of_none hFirst, hAfter] at hTakes
            rw [run_bind, hx.whole sink feed hFirst, hEnding]
            simp only
            rw [hy.whole sink _ hTakes, hEnds, hTally]
            simp only [List.append_assoc, Tally.add, Nat.add_assoc]
      · rw [Run.pieces_andThen hOffence] at hRefuses ⊢
        cases hFirst : (sink.takeFrom feed.taken.length a.pieces).2 with
        | some j =>
            rw [Sink.takeFrom_append_of_some hFirst] at hRefuses ⊢
            obtain ⟨tally, hCut⟩ := hx.cut sink feed i hRefuses
            exact ⟨tally, by rw [run_bind, hCut]⟩
        | none =>
            rw [Sink.takeFrom_append_of_none hFirst, hAfter] at hRefuses ⊢
            obtain ⟨tally, hCut⟩ := hy.cut sink
              { taken := feed.taken ++ a.pieces, tally := feed.tally.add a.tally } i hRefuses
            refine ⟨tally, ?_⟩
            rw [run_bind, hx.whole sink feed hFirst, hEnding]
            simp only
            rw [hCut, List.append_assoc]

theorem performs_done : Performs (fun _ => pure ()) Run.done := by
  refine { whole := fun sink feed _ => ?_, cut := fun sink feed i hRefuses => ?_ }
  · show ((Except.ok (), feed) : Except Interruption Unit × Feed) = _
    simp only [Run.done, Run.ending, List.append_nil, Tally.add_empty]
  · cases hRefuses

/-- A row of steps performs a row of runs. -/
theorem Performs.all {α : Type} {xs : List α} {step : α → Sink → Step Unit} {r : α → Run}
    (hSteps : ∀ c ∈ xs, Performs (step c) (r c)) :
    Performs (fun sink => xs.forM fun c => step c sink) (Run.all (xs.map r)) := by
  induction xs with
  | nil => exact performs_done
  | cons c xs ih =>
      rw [List.forall_mem_cons] at hSteps
      exact hSteps.1.andThen (ih hSteps.2)

theorem performs_hand (piece : String) :
    Performs (fun sink => hand sink piece) (Run.writing [piece]) := by
  have hTaken : ∀ (sink : Sink) count, sink.takeFrom count (Run.writing [piece]).pieces =
      match sink.refusal? count piece with
      | none => ([piece], none)
      | some i => ([], some i) := by
    intro sink count
    show sink.takeFrom count [piece] = _
    rw [Sink.takeFrom]
    cases sink.refusal? count piece <;> rfl
  have hRun : ∀ (sink : Sink) feed, (hand sink piece).run.run feed =
      match sink.refusal? feed.taken.length piece with
      | none => (.ok (), { feed with taken := feed.taken ++ [piece] })
      | some i => (.error i, feed) := by
    intro sink feed
    unfold hand
    rw [run_bind]
    show StateT.run (ExceptT.run (match sink.refusal? feed.taken.length piece with
      | none => _
      | some i => _)) feed = _
    cases sink.refusal? feed.taken.length piece <;> rfl
  refine { whole := fun sink feed hTakes => ?_, cut := fun sink feed i hRefuses => ?_ }
  · rw [hTaken] at hTakes
    rw [hRun]
    cases hRefusal : sink.refusal? feed.taken.length piece with
    | none => simp only [Run.writing, Run.ending, Tally.add_empty]
    | some i =>
        rw [hRefusal] at hTakes
        cases hTakes
  · rw [hTaken] at hRefuses ⊢
    refine ⟨feed.tally, ?_⟩
    rw [hRun]
    cases hRefusal : sink.refusal? feed.taken.length piece with
    | none =>
        rw [hRefusal] at hRefuses
        cases hRefuses
    | some j =>
        rw [hRefusal] at hRefuses
        obtain rfl := Option.some.inj hRefuses
        rw [List.append_nil]

theorem performs_pieces (pieces : List String) :
    Performs (fun sink => pieces.forM (hand sink)) (Run.writing pieces) := by
  have hPieces : ∀ piece ∈ pieces, Performs (fun sink => hand sink piece) (Run.writing [piece]) :=
    fun piece _ => performs_hand piece
  have hAll := Performs.all hPieces
  have hRuns : Run.all (pieces.map fun piece => Run.writing [piece]) = Run.writing pieces := by
    clear hAll hPieces
    induction pieces with
    | nil => rfl
    | cons piece pieces ih =>
        show (Run.writing [piece]).andThen (Run.all _) = _
        rw [ih]
        rfl
  rwa [hRuns] at hAll

theorem performs_count (tally : Tally) :
    Performs (fun _ => count tally) { tally := tally } := by
  refine { whole := fun sink feed _ => ?_, cut := fun sink feed i hRefuses => ?_ }
  · show ((Except.ok (), { feed with tally := feed.tally.add tally }) :
      Except Interruption Unit × Feed) = _
    simp only [Run.ending, List.append_nil]
  · cases hRefuses

theorem performs_throw (o : Offence) :
    Performs (fun _ => throw (.offence o)) (Run.stopped o) := by
  refine { whole := fun sink feed _ => ?_, cut := fun sink feed i hRefuses => ?_ }
  · show ((Except.error (.offence o), feed) : Except Interruption Unit × Feed) = _
    simp only [Run.stopped, Run.ending, List.append_nil, Tally.add_empty]
  · cases hRefuses

/-- Which styleables hold no attributes is not seen by a sink. -/
theorem Performs.of_silent (h : Performs x a) (silent : List (Nat × String)) :
    Performs x { a with silent } := ⟨h.whole, h.cut⟩

end

/-! ## The steps of a class -/

section

variable (style : Style) (t : Table) (package : Option String)

theorem performs_entry (g : Group) (e : Entry) :
    Performs (handEntry style t package g e) (runEntry style t package g e) := by
  unfold handEntry runEntry
  cases fate t package g e with
  | error o => exact performs_throw o
  | ok f =>
      have hPieces := (performs_pieces (f.pieces style t.package)).andThen (performs_count f.tally)
      have hRun : { (Run.writing (f.pieces style t.package)).andThen { tally := f.tally } with
          silent := (f.run style t.package).silent } = f.run style t.package := by
        simp only [Run.andThen, Run.writing, Fate.run, List.append_nil, Tally.empty_add]
      simp only
      rw [← hRun]
      exact hPieces.of_silent _

theorem performs_group (g : Group) :
    Performs (handGroup style t package g) (runGroup style t package g) := by
  rw [runGroup, runEntries_eq_all]
  exact (performs_hand _).andThen
    ((Performs.all fun e _ => performs_entry style t package g e).andThen (performs_hand _))

/-- The steps over a table hand over the run over it. -/
theorem performs_table (label : String) :
    Performs (handTable style t package label) (run style t package label) := by
  have hHead : Run.writing [headerText label, openingText] =
      (Run.writing [headerText label]).andThen (Run.writing [openingText]) := rfl
  rw [run, runGroups_eq_all, hHead, Run.andThen_assoc]
  exact (performs_hand _).andThen ((performs_hand _).andThen
    ((Performs.all fun g _ => performs_group style t package g).andThen (performs_hand _)))

end

/-! ## Generations -/

/-- What a generation handed to its sink, and what came of it. -/
structure Streamed where
  taken : List String
  outcome : Except Interruption Result

/-- What comes of a generation that ended so.  A reserved name is reported as a result. -/
def outcomeOf (s : Summary) : Except Interruption Unit → Except Interruption Result
  | .ok () => .ok (.complete s)
  | .error (.offence (.reserved name)) => .ok (.aborted s (.reserved name))
  | .error i => .error i

/-- Generates the class of a target step by step. -/
def streamed (style : Style) (t : Table) (target : Json.Value) (sink : Sink) : Streamed :=
  match Target.of? target with
  | none => { taken := [], outcome := .error .unshown }
  | some tgt =>
    let (ending, feed) := (handTable style t tgt.package? tgt.label sink).run.run {}
    { taken := feed.taken
      outcome := outcomeOf
        { target, tablePackage := t.package, groupCount := t.groups.length, tally := feed.tally }
        ending }

/-- What comes of a generation that is guarded.  An interruption that does not escape is
reported as a failed result. -/
def guarded : Except Interruption Result → Except Interruption Result
  | .ok r => .ok r
  | .error i => if i.escapes then .error i else .ok (.failed i)

section

variable (style : Style) (t : Table) (target : Json.Value)

/-- The pieces that are handed to a sink that never fails. -/
def chunks : List String := (streamed style t target {}).taken

/-- A sink that takes all pieces is handed what a sink is that never fails. -/
theorem streamed_of_takes {sink : Sink}
    (hTakes : (sink.takeFrom 0 (chunks style t target)).2 = none) :
    streamed style t target sink = streamed style t target {} := by
  unfold chunks at hTakes
  unfold streamed at hTakes ⊢
  cases hTarget : Target.of? target with
  | none => rfl
  | some tgt =>
      have hSteps := performs_table style t tgt.package? tgt.label
      generalize run style t tgt.package? tgt.label = r at hSteps
      have hWhole := hSteps.whole {} {} (takeFrom_of_unlimited rfl rfl _ _)
      simp only [hTarget, hWhole, List.nil_append] at hTakes
      simp only [hWhole, hSteps.whole sink {} hTakes]

/-- A sink that refuses a piece takes those before it, and interrupts. -/
theorem streamed_of_refusal {sink : Sink} {i : Interruption}
    (hRefuses : (sink.takeFrom 0 (chunks style t target)).2 = some i) :
    streamed style t target sink =
      { taken := (sink.takeFrom 0 (chunks style t target)).1, outcome := .error i } := by
  have hPlain := Sink.refusal_ne_offence hRefuses
  unfold chunks at hRefuses ⊢
  unfold streamed at hRefuses ⊢
  cases hTarget : Target.of? target with
  | none =>
      simp only [hTarget] at hRefuses
      cases hRefuses
  | some tgt =>
      have hSteps := performs_table style t tgt.package? tgt.label
      generalize run style t tgt.package? tgt.label = r at hSteps
      have hWhole := hSteps.whole {} {} (takeFrom_of_unlimited rfl rfl _ _)
      simp only [hTarget, hWhole, List.nil_append] at hRefuses
      obtain ⟨tally, hCut⟩ := hSteps.cut sink {} i hRefuses
      simp only [hWhole, hCut, List.nil_append]
      cases i with
      | offence o => exact absurd rfl (hPlain o)
      | unshown => rfl
      | sink failure => rfl
      | unencodable u => rfl

/-- A generation is its steps: the sink takes their pieces, and they end as it ends. -/
theorem generate_eq_streamed (sink : Sink) :
    (generate style t target sink).written =
        String.join (streamed style t target sink).taken ∧
      (generate style t target sink).outcome = (streamed style t target sink).outcome := by
  unfold generate streamed
  cases Target.of? target with
  | none => exact ⟨rfl, rfl⟩
  | some tgt =>
      have hSteps := performs_table style t tgt.package? tgt.label
      simp only
      generalize run style t tgt.package? tgt.label = r at hSteps
      cases hRefusal : (sink.takeFrom 0 r.pieces).2 with
      | none =>
          rw [hSteps.whole sink {} hRefusal, Sink.takeFrom_of_none hRefusal]
          simp only [List.nil_append, Tally.empty_add, Run.ending]
          cases r.offence with
          | none => exact ⟨rfl, rfl⟩
          | some o => cases o <;> exact ⟨rfl, rfl⟩
      | some i =>
          obtain ⟨tally, hCut⟩ := hSteps.cut sink {} i hRefusal
          rw [hCut]
          have hPlain := Sink.refusal_ne_offence hRefusal
          simp only [List.nil_append]
          cases i with
          | offence o => exact absurd rfl (hPlain o)
          | unshown => exact ⟨rfl, rfl⟩
          | sink failure => exact ⟨rfl, rfl⟩
          | unencodable u => exact ⟨rfl, rfl⟩

/-- A guarded generation is its steps, and then the guard. -/
theorem generateGuarded_eq_streamed (sink : Sink) :
    (generateGuarded style t target sink).written =
        String.join (streamed style t target sink).taken ∧
      (generateGuarded style t target sink).outcome =
        guarded (streamed style t target sink).outcome := by
  obtain ⟨hWritten, hOutcome⟩ := generate_eq_streamed style t target sink
  rw [← hWritten, ← hOutcome]
  unfold generateGuarded guarded
  cases hEnd : (generate style t target sink).outcome with
  | ok r =>
      simp only [hEnd]
      exact ⟨trivial, trivial⟩
  | error i =>
      by_cases hEscapes : i.escapes = true
      · simp only [hEnd, if_pos hEscapes, and_self]
      · simp only [hEnd, if_neg hEscapes, and_self]

/-- A sink that fails only cuts the class short.  A sink with room for the pieces of the
whole class is handed what a sink is that never fails, and the outcome is the same,
interruptions that escape included.  A sink with room for fewer takes the first ones, and
whatever would have come after, its failure is what is reported: as a failed result with
nothing known about it. -/
theorem generateGuarded_cut_short (room : Nat) (failure : String) :
    (generateGuarded style t target {}).written = String.join (chunks style t target) ∧
    ((chunks style t target).length ≤ room →
      (generateGuarded style t target { room := some room, failure }).written =
          (generateGuarded style t target {}).written ∧
        (generateGuarded style t target { room := some room, failure }).outcome =
          (generateGuarded style t target {}).outcome) ∧
    (room < (chunks style t target).length →
      (streamed style t target { room := some room, failure }).taken =
          (chunks style t target).take room ∧
        (generateGuarded style t target { room := some room, failure }).written =
          String.join ((chunks style t target).take room) ∧
        ∃ r, (generateGuarded style t target { room := some room, failure }).outcome = .ok r ∧
          r.isComplete = false ∧ r.message? = some ("Code generation failed: " ++ failure) ∧
          r.fields = []) := by
  obtain ⟨hWhole, hWholeOutcome⟩ := generateGuarded_eq_streamed style t target {}
  obtain ⟨hCut, hCutOutcome⟩ :=
    generateGuarded_eq_streamed style t target { room := some room, failure }
  have hTaken := Sink.takeFrom_room room failure 0 (chunks style t target)
  rw [Nat.sub_zero, Nat.zero_add] at hTaken
  refine ⟨hWhole, fun hRoom => ?_, fun hRoom => ?_⟩
  · have hTakes : (({ room := some room, failure } : Sink).takeFrom 0
        (chunks style t target)).2 = none := by
      rw [hTaken, if_neg fun hLess => Nat.not_lt.2 hRoom hLess.1]
    rw [hCut, hCutOutcome, hWhole, hWholeOutcome, streamed_of_takes style t target hTakes]
    exact ⟨rfl, rfl⟩
  · have hSome : chunks style t target ≠ [] := by
      rintro hNone
      rw [hNone] at hRoom
      exact Nat.not_lt_zero room hRoom
    rw [if_pos ⟨hRoom, hSome⟩] at hTaken
    have hRefuses : (({ room := some room, failure } : Sink).takeFrom 0
        (chunks style t target)).2 = some (.sink failure) := by
      rw [hTaken]
    rw [hCut, hCutOutcome, streamed_of_refusal style t target hRefuses, hTaken]
    exact ⟨rfl, rfl, .failed (.sink failure), rfl, rfl, rfl, rfl⟩

end

end ResourceSymbols.RClass
