import Mathlib
import ResourceSymbols.Proofs.CommandSteps
import ResourceSymbols.Proofs.ListedPackages
import ResourceSymbols.Proofs.Messages
import ResourceSymbols.Proofs.Writing

/-!
# The classes of all packages

One run of the command can write the classes of all packages below a source root.  Each
class has a file of its own there: the file is written whole, and the files that are
written after it leave it as it is.

## Main results

* `exists_placed` — what a class that is written changes in the tree.
* `Wrote.retains`, `Wrote.placed` — what a row of classes changes.
* `exists_ends_outputBelow` — a class that is complete is reported with its file.
* `wrote_of_outputAll` — the command writes its packages in a row.
* `run_all_packages` — the files below the source root after a run with status 0.
-/

namespace ResourceSymbols

open Resource (Table)

/-! ## Files of a tree -/

namespace Files.Tree

/-- What the file at the location holds, if a file is there. -/
def octets? (t : Tree) (l : Location) : Option (List UInt8) :=
  match t.node? l with
  | some (.file octets) | some (.readOnly octets) => some octets
  | some .directory | none => none

/-- A file that is read stands where its path leads. -/
theorem read_eq_ok_iff {t : Tree} {p : Path} {octets : List UInt8} :
    t.read p = .ok octets ↔ ∃ l, t.locate p = .ok l ∧ t.octets? l = some octets := by
  unfold read stat octets?
  cases t.locate p with
  | error e => simp
  | ok l =>
      simp only [Except.ok.injEq, exists_eq_left']
      cases t.node? l with
      | none => simp
      | some n => cases n <;> simp

/-- The empty tree holds no file. -/
theorem empty_octets? (l : Location) : empty.octets? l = none := by
  unfold octets? node?
  by_cases hStart : l = []
  · simp [hStart]
  · cases hHome : l == ["home"] <;> simp [empty, List.lookup, hStart, hHome]

/-- The file at the location holds the text. -/
def Holds (t : Tree) (l : Location) (text : String) : Prop :=
  ∃ octets, Text.Utf8.encode text = .ok octets ∧ t.octets? l = some octets

/-- What stays holds what it held. -/
theorem octets?_of_stays {before after : Tree} {l : Location}
    (hStays : Stays (before.node? l) (after.node? l)) : after.octets? l = before.octets? l := by
  unfold octets?
  rcases hStays with hSame | ⟨hNone, hMade⟩
  · rw [hSame]
  · rw [hNone, hMade]

end Files.Tree

namespace RClass

open Files (Location Path Tree)

/-! ## One class -/

section

variable {t : Table} {s : Settings} {root : Path} {p : String} {before after : Tree}

/-- The class of the package stands whole in its file below the location, and all else
stays. -/
structure Placed (t : Table) (s : Settings) (root : Path) (p : String) (before after : Tree)
    (l : Location) (source : Source) : Prop where
  generated : (toSource t (.text p) s).1 = .ok source
  complete : source.result.isComplete = true
  leads : after.LeadsTo root l
  place : after.locate (path root p) = .ok (l ++ fileNames p)
  file : after.Holds (l ++ fileNames p) source.code
  retains : before.Retains after
  others : ∀ k, k ≠ l ++ fileNames p → Tree.Stays (before.node? k) (after.node? k)

/-- A class with a result was put where a file can be written, after directories were
made. -/
theorem exists_of_toFile (hName : p ≠ "") {r : Result}
    (hOutcome : (toFile t root (.text p) s before).outcome = .ok r) :
    ∃ grown l, before.Grows grown ∧ grown.locate (path root p) = .ok l ∧ grown.Writable l ∧
      Settled grown l (path root p) (toSource t (.text p) s).1
        (run (styleOf s) t (some p) p).pieces (toFile t root (.text p) s before) ∧
      grown.GrowsApart l (toFile t root (.text p) s before).tree := by
  have hTarget : targetOf (.text p) s t = .text p := targetOf_text hName
  have hGrows := Tree.makeDirectories_grows before (path root p).parent
  rcases hMade : before.makeDirectories (path root p).parent with ⟨grown, _ | e⟩
  · rw [hMade] at hGrows
    rw [toFile_of_made hTarget hMade] at hOutcome ⊢
    cases hOpen : grown.write (path root p) [] with
    | error e =>
        obtain ⟨e', hFailed⟩ :=
          (writeAt_of_refused t (.text p) (styleOf s) hOpen).exists_error
        rw [hFailed] at hOutcome
        cases hOutcome
    | ok opened =>
        obtain ⟨l, hLocate, hPlace, -⟩ := Tree.write_eq_ok_iff.1 hOpen
        obtain ⟨hSettled, hApart⟩ := writeAt_settled t (.text p) s hTarget hLocate hPlace
        exact ⟨grown, l, hGrows, hLocate, hPlace, hSettled, hApart⟩
  · rw [toFile_of_not_made hTarget hMade] at hOutcome
    cases hOutcome

/-- A class that is complete was settled in one way: its file holds it, and its findings
name the file. -/
theorem exists_of_complete {grown : Tree} {l : Location} {file : Path}
    {made : Except Error Source} {pieces : List String} {w : Writing}
    (hSettled : Settled grown l file made pieces w) {r : Result} (hOutcome : w.outcome = .ok r)
    (hComplete : r.isComplete = true) :
    ∃ code summary octets, made = .ok ⟨code, .complete summary⟩ ∧
      r = .complete { summary with path := some file.text } ∧
      Text.Utf8.encode code = .ok octets ∧ w.tree.read file = .ok octets := by
  cases hSettled with
  | whole summary octets hSource hOctets hOutcome' hFields hFile =>
      rw [hOutcome] at hOutcome'
      exact ⟨_, summary, octets, hSource, Except.ok.inj hOutcome', hOctets, hFile⟩
  | unfinished outcome octets hUnfinished hBack =>
      have hNot := hUnfinished.not_complete
      cases hBack with
      | gone hLocked hOutcome' hFile =>
          rw [hOutcome] at hOutcome'
          exact absurd hComplete (hNot r hOutcome'.symm)
      | stuck hLocked hOutcome' hFile =>
          rw [hOutcome] at hOutcome'
          cases hOutcome'

/-- The findings of a class that was written name its file. -/
theorem output_file_of_toFile (hName : p ≠ "") {r : Result}
    (hOutcome : (toFile t root (.text p) s before).outcome = .ok r)
    (hComplete : r.isComplete = true) :
    r.fields.get? "output_file" = some (.text (path root p).text) := by
  obtain ⟨_, _, -, -, -, hSettled, -⟩ := exists_of_toFile hName hOutcome
  obtain ⟨_, _, _, -, rfl, -⟩ := exists_of_complete hSettled hOutcome hComplete
  rfl

/-- The path of a class ends with the name of its file. -/
theorem exists_text_path (root : Path) (p : String) :
    ∃ front, (path root p).text = front ++ "R.java" := by
  unfold path
  generalize (Text.splitText '.' p).foldl (fun q s => q.join (.ofText s)) root = directory
  have hText : (directory.join { root := "", names := ["R.java"] }).text =
      directory.root ++ "/".intercalate (directory.names ++ ["R.java"]) := by
    simp [Path.join, Path.text]
  rw [hText]
  cases hNames : directory.names with
  | nil => exact ⟨directory.root, rfl⟩
  | cons n ns =>
      rw [String.intercalate_append_of_ne_nil (by simp) (by simp), String.intercalate_singleton]
      exact ⟨_, (String.append_assoc ..).symm⟩

/-- What a class that is written changes in the tree. -/
theorem exists_placed (hName : Symbol.packageWarnings p = []) {r : Result}
    (hOutcome : (toFile t root (.text p) s before).outcome = .ok r)
    (hComplete : r.isComplete = true) :
    ∃ l source, Placed t s root p before (toFile t root (.text p) s before).tree l source := by
  obtain ⟨grown, place, hGrows, hLocate, hPlace, hSettled, hApart⟩ :=
    exists_of_toFile (Symbol.ne_empty_of_noWarnings hName) hOutcome
  obtain ⟨code, summary, octets, hSource, -, hOctets, hFile⟩ :=
    exists_of_complete hSettled hOutcome hComplete
  -- The file is found where it was written, for the directories are still there.
  have hRetains := hApart.retains hPlace.ne_directory
  have hThere := Tree.locate_of_directories hRetains.home hRetains.directory hLocate
  obtain ⟨found, hFound, hHeld⟩ := Tree.read_eq_ok_iff.1 hFile
  obtain rfl : found = place := Except.ok.inj (hFound.symm.trans hThere)
  obtain ⟨l, hLeads, rfl⟩ := Tree.exists_leadsTo_root hName (Tree.leadsTo_of_locate hThere)
  exact ⟨l, ⟨code, .complete summary⟩,
    { generated := hSource
      complete := rfl
      leads := hLeads
      place := hThere
      file := ⟨octets, hOctets, hHeld⟩
      retains := hGrows.retains.trans hRetains
      others := (hGrows.trans_apart hApart).node }⟩

/-! ## A row of classes -/

/-- The classes of the packages are written one after the other, and each is complete. -/
inductive Wrote (t : Table) (s : Settings) (root : Path) : List String → Tree → Tree → Prop
  | nil (tree : Tree) : Wrote t s root [] tree tree
  | cons {p : String} {ps : List String} {before after : Tree} {r : Result}
      (hOutcome : (toFile t root (.text p) s before).outcome = .ok r)
      (hComplete : r.isComplete = true)
      (hRest : Wrote t s root ps (toFile t root (.text p) s before).tree after) :
      Wrote t s root (p :: ps) before after

/-- No class takes a directory away. -/
theorem Wrote.retains {ps : List String} (hNames : ∀ p ∈ ps, Symbol.packageWarnings p = [])
    (h : Wrote t s root ps before after) : before.Retains after := by
  induction h with
  | nil tree => exact .refl tree
  | cons hOutcome hComplete _ ih =>
      rw [List.forall_mem_cons] at hNames
      obtain ⟨l, source, hPlaced⟩ := exists_placed hNames.1 hOutcome hComplete
      exact hPlaced.retains.trans (ih hNames.2)

/-- Somewhere the source root leads, once a class was written. -/
theorem Wrote.exists_leadsTo {ps : List String}
    (hNames : ∀ p ∈ ps, Symbol.packageWarnings p = []) (hSome : ps ≠ [])
    (h : Wrote t s root ps before after) : ∃ l, after.LeadsTo root l := by
  cases h with
  | nil => exact absurd rfl hSome
  | cons hOutcome hComplete hRest =>
      rw [List.forall_mem_cons] at hNames
      obtain ⟨l, source, hPlaced⟩ := exists_placed hNames.1 hOutcome hComplete
      exact ⟨l, hPlaced.leads.of_retains (hRest.retains hNames.2)⟩

/-- The class of each package stands whole in its file below the location, and all else
stays. -/
structure AllPlaced (t : Table) (s : Settings) (root : Path) (ps : List String)
    (before after : Tree) (l : Location) : Prop where
  each : ∀ p ∈ ps, ∃ source, (toSource t (.text p) s).1 = .ok source ∧
    source.result.isComplete = true ∧ after.locate (path root p) = .ok (l ++ fileNames p) ∧
    after.Holds (l ++ fileNames p) source.code
  others : ∀ k, (∀ p ∈ ps, k ≠ l ++ fileNames p) → Tree.Stays (before.node? k) (after.node? k)

/-- Each class of a row is written, and none after it changes its file. -/
theorem Wrote.placed {ps : List String} (hNames : ∀ p ∈ ps, Symbol.packageWarnings p = [])
    (hNodup : ps.Nodup) (h : Wrote t s root ps before after) {l : Location}
    (hLeads : after.LeadsTo root l) : AllPlaced t s root ps before after l := by
  induction h with
  | nil tree => exact ⟨by simp, fun k _ => .inl rfl⟩
  | @cons p ps before after r hOutcome hComplete hRest ih =>
      rw [List.forall_mem_cons] at hNames
      rw [List.nodup_cons] at hNodup
      have hTail := ih hNames.2 hNodup.2 hLeads
      have hKept := hRest.retains hNames.2
      obtain ⟨here, source, hPlaced⟩ := exists_placed hNames.1 hOutcome hComplete
      obtain rfl : here = l := (hPlaced.leads.of_retains hKept).eq hLeads
      have hOwn : ∀ q ∈ ps, here ++ fileNames p ≠ here ++ fileNames q := by
        intro q hq hSame
        have hEqual : p = q := fileNames_injective (List.append_cancel_left hSame)
        exact hNodup.1 (hEqual ▸ hq)
      refine { each := ?_, others := ?_ }
      · rw [List.forall_mem_cons]
        refine ⟨⟨source, hPlaced.generated, hPlaced.complete, ?_, ?_⟩, hTail.each⟩
        · exact Tree.locate_of_directories hKept.home hKept.directory hPlaced.place
        · obtain ⟨octets, hOctets, hHeld⟩ := hPlaced.file
          exact ⟨octets, hOctets, (Tree.octets?_of_stays (hTail.others _ hOwn)).trans hHeld⟩
      · intro k hk
        rw [List.forall_mem_cons] at hk
        exact (hPlaced.others k hk.1).trans (hTail.others k hk.2)

end

end RClass

namespace Command

open Files (Location Path Tree)
open RClass (Result Wrote fileNames)

/-! ## The row of the command -/

/-- What is printed for a class that was written. -/
def wroteMarkup (p : String) (r : Result) : String :=
  let path := ((r.fields.get? "output_file").bind Json.Value.text?).getD ""
  s!"[green]✓[/green] {p}: wrote [cyan]{path}[/cyan]"

theorem wroteMarkup_of_output_file (p : String) {r : Result} {path : String}
    (hFile : r.fields.get? "output_file" = some (.text path)) :
    wroteMarkup p r = s!"[green]✓[/green] {p}: wrote [cyan]{path}[/cyan]" := by
  unfold wroteMarkup
  rw [hFile]
  rfl

section

variable {a : Arguments} {t : Table} {s : Settings} {root p : String} {st st' : State}

/-- A class is written below the source root when it is complete and its path can be
printed. -/
theorem ends_outputBelow_iff {r : Result} :
    Ends (outputBelow t s root p) st (some r) st' ↔
      (RClass.toFile t (.ofText root) (.text p) s st.tree).outcome = .ok r ∧
      r.isComplete = true ∧ ∃ text, Console.printed (wroteMarkup p r) = .ok text ∧
        st' = { st with
          tree := (RClass.toFile t (.ofText root) (.text p) s st.tree).tree
          log := st.log ++ (RClass.toFile t (.ofText root) (.text p) s st.tree).log
          stderr := st.stderr ++ text } := by
  unfold outputBelow
  constructor
  · intro hEnds
    obtain ⟨_, _, hGet, hBody⟩ := ends_bind_iff.1 hEnds
    obtain ⟨rfl, rfl⟩ := ends_get_iff.1 hGet
    obtain ⟨_, _, hTree, hLogged⟩ := ends_bind_iff.1 hBody
    obtain ⟨_, _, hLog, hEnded⟩ := ends_bind_iff.1 hLogged
    obtain ⟨r', _, hResult, hSaid⟩ := ends_bind_iff.1 hEnded
    obtain ⟨hOutcome, hSame⟩ := ends_orFail_iff.1 hResult
    rw [hSame, ends_record_iff.1 hLog, ends_modify_iff.1 hTree] at hSaid
    by_cases hComplete : r'.isComplete = true
    · rw [if_pos hComplete] at hSaid
      obtain ⟨_, _, hSay, hPure⟩ := ends_bind_iff.1 hSaid
      obtain ⟨text, hText, hPrinted⟩ := ends_say_iff.1 hSay
      obtain ⟨hGiven, rfl⟩ := ends_pure_iff.1 hPure
      obtain rfl := Option.some.inj hGiven
      exact ⟨hOutcome, hComplete, text, hText, hPrinted⟩
    · rw [if_neg hComplete] at hSaid
      obtain ⟨_, _, -, hPure⟩ := ends_bind_iff.1 hSaid
      cases (ends_pure_iff.1 hPure).1
  · rintro ⟨hOutcome, hComplete, text, hText, rfl⟩
    refine ends_bind_iff.2 ⟨_, _, ends_get_iff.2 ⟨rfl, rfl⟩, ?_⟩
    refine ends_bind_iff.2 ⟨(), _, ends_modify_iff.2 rfl, ?_⟩
    refine ends_bind_iff.2 ⟨(), _, ends_record_iff.2 rfl, ?_⟩
    refine ends_bind_iff.2 ⟨r, _, ends_orFail_iff.2 ⟨hOutcome, rfl⟩, ?_⟩
    rw [if_pos hComplete]
    exact ends_bind_iff.2 ⟨(), _, ends_say_iff.2 ⟨text, hText, rfl⟩, ends_pure_iff.2 ⟨rfl, rfl⟩⟩

/-- A class that is complete is reported with its package and its file. -/
theorem exists_ends_outputBelow (hName : Symbol.packageWarnings p = [])
    (hPlain : ∀ c ∈ (RClass.path (.ofText root) p).text.toList, Console.isPlain c) {r : Result}
    (hOutcome : (RClass.toFile t (.ofText root) (.text p) s st.tree).outcome = .ok r)
    (hComplete : r.isComplete = true) :
    ∃ st', Ends (outputBelow t s root p) st (some r) st' ∧
      st'.tree = (RClass.toFile t (.ofText root) (.text p) s st.tree).tree := by
  have hFile :=
    RClass.output_file_of_toFile (Symbol.ne_empty_of_noWarnings hName) hOutcome hComplete
  obtain ⟨front, hText⟩ := RClass.exists_text_path (.ofText root) p
  have hSome : (RClass.path (.ofText root) p).text ≠ "" := by
    rw [hText]
    simp
  have hPrinted := Console.printed_wrote (Console.isPlain_of_noWarnings hName) hSome hPlain
  rw [← wroteMarkup_of_output_file p hFile] at hPrinted
  exact ⟨_, ends_outputBelow_iff.2 ⟨hOutcome, hComplete, _, hPrinted, rfl⟩, rfl⟩

/-- One class is written below the source root, its findings are printed where that is
asked for, and then those after it are written. -/
theorem ends_outputAll_cons_iff (hRoot : given a.outputDir = some root) {ps : List String} :
    Ends (outputAll a t s (p :: ps)) st 0 st' ↔
      ∃ r st₁ st₂, Ends (outputBelow t s root p) st (some r) st₁ ∧
        ((a.verbose = true ∧ Ends (printFields r.fields) st₁ () st₂) ∨
          (a.verbose = false ∧ st₂ = st₁)) ∧
        Ends (outputAll a t s ps) st₂ 0 st' := by
  rw [outputAll]
  simp only [hRoot]
  rw [ends_bind_iff]
  constructor
  · rintro ⟨written, st₁, hFirst, hRest⟩
    cases written with
    | none => cases (ends_pure_iff.1 hRest).1
    | some r =>
        cases hVerbose : a.verbose with
        | true =>
            simp only [hVerbose, if_true] at hRest
            obtain ⟨_, st₂, hFields, hRest⟩ := ends_bind_iff.1 hRest
            exact ⟨r, st₁, st₂, hFirst, .inl ⟨rfl, hFields⟩, hRest⟩
        | false =>
            simp only [hVerbose, Bool.false_eq_true, if_false] at hRest
            exact ⟨r, st₁, st₁, hFirst, .inr ⟨rfl, rfl⟩, hRest⟩
  · rintro ⟨r, st₁, st₂, hFirst, hFields, hRest⟩
    refine ⟨some r, st₁, hFirst, ?_⟩
    rcases hFields with ⟨hVerbose, hFields⟩ | ⟨hVerbose, rfl⟩
    · simp only [hVerbose, if_true]
      exact ends_bind_iff.2 ⟨(), st₂, hFields, hRest⟩
    · simp only [hVerbose, Bool.false_eq_true, if_false]
      exact hRest

/-- The command writes the classes of its packages in a row. -/
theorem wrote_of_outputAll (hRoot : given a.outputDir = some root) {ps : List String}
    (hEnds : Ends (outputAll a t s ps) st 0 st') :
    Wrote t s (.ofText root) ps st.tree st'.tree := by
  induction ps generalizing st with
  | nil =>
      rw [outputAll] at hEnds
      obtain ⟨-, rfl⟩ := ends_pure_iff.1 hEnds
      exact .nil _
  | cons p ps ih =>
      obtain ⟨r, st₁, st₂, hFirst, hFields, hRest⟩ := (ends_outputAll_cons_iff hRoot).1 hEnds
      obtain ⟨hOutcome, hComplete, text, -, hWritten⟩ := ends_outputBelow_iff.1 hFirst
      have hSame : st₂.outputs = st₁.outputs := by
        rcases hFields with ⟨-, hFields⟩ | ⟨-, rfl⟩
        · exact (keeps_printFields r.fields).of_ends hFields
        · rfl
      have hTree : st₂.tree = (RClass.toFile t (.ofText root) (.text p) s st.tree).tree := by
        rw [State.tree_eq hSame, hWritten]
      exact .cons hOutcome hComplete (hTree ▸ ih hRest)

end

/-! ## Whole runs -/

section

variable {w : Surroundings} {words : List String} {a : Arguments} {root : String} {t : Table}
  {s : Settings}

/-- A run with status 0 that is asked for all packages writes them in a row, and changes
no file otherwise. -/
theorem wrote_of_run (hWords : Arguments.read words = .ok a) (hAll : a.allPackages = true)
    (hDirectory : a.outputDir = some root)
    (hTable : ((readTable w a).run.run { tree := w.tree }).1 = .ok t)
    (hSettings : Settings.load w.tree (.object (overrides a)) (.ofText? a.config) = .ok s)
    (hStatus : (run w words).status = .ok 0) :
    Wrote t s (.ofText root) t.packages w.tree (run w words).state.tree := by
  have hRun : run w words = runWith w a := by rw [run, hWords]
  rw [hRun] at hStatus ⊢
  obtain ⟨hLevel, st, hPerform⟩ := status_runWith_eq_zero_iff.1 hStatus
  rw [State.tree_eq (outputs_runWith hLevel hPerform)]
  obtain ⟨_, _, hCheck, hReading⟩ := ends_bind_iff.1 hPerform
  obtain ⟨hSome, -, rfl⟩ := ends_checkOutputs_iff.1 hCheck
  obtain ⟨t', st₂, hReadTable, hAfterTable⟩ := ends_bind_iff.1 hReading
  obtain ⟨s', st₃, hReadSettings, hWriting⟩ := ends_bind_iff.1 hAfterTable
  -- The table and the settings are those that the run reads.
  obtain rfl : t' = t := by
    rw [hReadTable] at hTable
    exact Except.ok.inj hTable
  obtain rfl : s' = s := by
    have hLoad := load_of_readSettings hReadSettings
    rw [hSettings] at hLoad
    exact (Except.ok.inj hLoad).symm
  have hGiven : given a.outputDir = some root := by
    obtain ⟨found, hFound⟩ := Option.isSome_iff_exists.1 (hSome hAll)
    have hSame := (Option.filter_eq_some_iff.1 hFound).1
    rw [hDirectory] at hSame
    rw [hFound, Option.some.inj hSame]
  have hPackages : packagesOf a t' s' = t'.packages := by rw [packagesOf, if_pos hAll]
  rw [hPackages] at hWriting
  have hTree : st₃.tree = w.tree := by
    rw [State.tree_eq ((keeps_readSettings w a).of_ends hReadSettings),
      State.tree_eq ((keeps_readTable w a).of_ends hReadTable)]
  rw [← hTree]
  exact wrote_of_outputAll hGiven hWriting

/-- A run with status 0 that is asked for all packages loses no class.  The paths of the
classes are distinct and go down from the source root, which leads to one location in the
end, and led to no other before.  The file of each package holds the class as a text; and
if no file was there before, the files below the location are these. -/
theorem run_all_packages (hWords : Arguments.read words = .ok a) (hAll : a.allPackages = true)
    (hDirectory : a.outputDir = some root)
    (hTable : ((readTable w a).run.run { tree := w.tree }).1 = .ok t)
    (hSettings : Settings.load w.tree (.object (overrides a)) (.ofText? a.config) = .ok s)
    (hNames : ∀ p ∈ t.packages, Symbol.packageWarnings p = [])
    (hStatus : (run w words).status = .ok 0) :
    (t.packages.map (RClass.path (.ofText root))).Nodup ∧
    (∀ p ∈ t.packages, RClass.path (.ofText root) p =
      { Path.ofText root with names := (Path.ofText root).names ++ fileNames p }) ∧
    ∃ l, (run w words).state.tree.LeadsTo (.ofText root) l ∧
      (∀ k, w.tree.LeadsTo (.ofText root) k → k = l) ∧
      (∀ p ∈ t.packages, ∃ source octets, (RClass.toSource t (.text p) s).1 = .ok source ∧
        source.result.isComplete = true ∧
        (run w words).state.tree.locate (RClass.path (.ofText root) p) =
          .ok (l ++ fileNames p) ∧
        Text.Utf8.encode source.code = .ok octets ∧
        (run w words).state.tree.read (RClass.path (.ofText root) p) = .ok octets) ∧
      ((∀ k, w.tree.octets? (l ++ k) = none) →
        ∀ k octets, (run w words).state.tree.octets? (l ++ k) = some octets ↔
          ∃ p ∈ t.packages, ∃ source, (RClass.toSource t (.text p) s).1 = .ok source ∧
            k = fileNames p ∧ Text.Utf8.encode source.code = .ok octets) := by
  have hWrote := wrote_of_run hWords hAll hDirectory hTable hSettings hStatus
  generalize (run w words).state.tree = final at hWrote ⊢
  have hSome : t.packages ≠ [] := by simp [Table.packages]
  obtain ⟨l, hLeads⟩ := hWrote.exists_leadsTo hNames hSome
  have hPlaced := hWrote.placed hNames t.nodup_packages hLeads
  refine ⟨?_, fun p hp => RClass.path_of_noWarnings _ (hNames p hp), l, hLeads, ?_, ?_, ?_⟩
  · refine List.Nodup.map_on (fun p hp q hq hPath => ?_) t.nodup_packages
    exact RClass.path_injective _ (hNames p hp) (hNames q hq) hPath
  · intro k hBefore
    exact (hBefore.of_retains (hWrote.retains hNames)).eq hLeads
  · intro p hp
    obtain ⟨source, hSource, hComplete, hLocate, octets, hOctets, hHeld⟩ := hPlaced.each p hp
    exact ⟨source, octets, hSource, hComplete, hLocate, hOctets,
      Tree.read_eq_ok_iff.2 ⟨_, hLocate, hHeld⟩⟩
  · intro hEmpty k octets
    constructor
    · intro hFile
      by_cases hOwn : ∃ p ∈ t.packages, k = fileNames p
      · obtain ⟨p, hp, rfl⟩ := hOwn
        obtain ⟨source, hSource, -, -, held, hOctets, hHeld⟩ := hPlaced.each p hp
        rw [hHeld] at hFile
        cases hFile
        exact ⟨p, hp, source, hSource, rfl, hOctets⟩
      · -- What is not one of the files was there before, and so is no file.
        have hApart : ∀ p ∈ t.packages, l ++ k ≠ l ++ fileNames p := fun p hp hSame =>
          hOwn ⟨p, hp, List.append_cancel_left hSame⟩
        rw [Tree.octets?_of_stays (hPlaced.others _ hApart), hEmpty] at hFile
        cases hFile
    · rintro ⟨p, hp, source, hSource, rfl, hOctets⟩
      obtain ⟨source', hSource', -, -, held, hHeldOctets, hHeld⟩ := hPlaced.each p hp
      rw [hSource] at hSource'
      obtain rfl := Except.ok.inj hSource'
      rw [hOctets] at hHeldOctets
      obtain rfl := Except.ok.inj hHeldOctets
      exact hHeld

end

/-! ## A run for two packages -/

/-- A document on the standard input, with an entry of the table and one of `lib.x`. -/
def twoPackagesText : String :=
  "\x7b\"package\": \"app\", \"id\": 127, \"types\": [" ++
    "\x7b\"type\": \"id\", \"id\": 1, \"entries\": [" ++
      "\x7b\"name\": \"a\", \"id\": 0\x7d, \x7b\"name\": \"lib.x$b\", \"id\": 1\x7d]\x7d]\x7d"

/-- No file is there before the run. -/
def twoPackages : Surroundings :=
  { tree := .empty
    stdin := Text.Utf8.octetsOf twoPackagesText.toList
    exchange := .trouble .connection "" }

def twoPackagesWords : List String := ["--stdin", "--output-dir", "out/gen", "--all-packages"]

def twoPackagesArguments : Arguments :=
  { stdin := true, outputDir := some "out/gen", allPackages := true }

def twoPackagesTable : Table :=
  { package := "app", number := 0x7F
    groups := [{ kind := .id, number := 1, entries := [⟨"a", 0, []⟩, ⟨"lib.x$b", 1, []⟩] }] }

theorem read_twoPackagesWords : Arguments.read twoPackagesWords = .ok twoPackagesArguments := by
  decide +kernel

theorem exists_ends_readTable_twoPackages :
    ∃ st, Ends (readTable twoPackages twoPackagesArguments) { tree := .empty }
      twoPackagesTable st := by
  let entries : Json.Value := .list [.object [("name", .text "a"), ("id", .int 0)],
    .object [("name", .text "lib.x$b"), ("id", .int 1)]]
  let document : Json.Value := .object [("package", .text "app"), ("id", .int 0x7F),
    ("types", .list [.object [("type", .text "id"), ("id", .int 1), ("entries", entries)]])]
  have hText : Text.Utf8.decode twoPackages.stdin = .ok twoPackagesText.toList := by
    decide +kernel
  have hRead : Json.Value.read (Text.foldLineEnds twoPackagesText.toList) = .ok document := by
    cbv
  have hTable : Table.ofDocument document = .ok twoPackagesTable := rfl
  exact exists_ends_readTable rfl rfl rfl hText hRead hTable

theorem packages_twoPackagesTable : twoPackagesTable.packages = ["app", "lib.x"] := by
  decide +kernel

theorem noWarnings_twoPackagesTable :
    ∀ p ∈ twoPackagesTable.packages, Symbol.packageWarnings p = [] := by
  decide +kernel

theorem status_run_twoPackages : (run twoPackages twoPackagesWords).status = .ok 0 := by
  have hRun : run twoPackages twoPackagesWords = runWith twoPackages twoPackagesArguments := by
    rw [run, read_twoPackagesWords]
  rw [hRun]
  refine status_runWith_eq_zero_iff.2 ⟨rfl, ?_⟩
  have hNames := noWarnings_twoPackagesTable
  rw [packages_twoPackagesTable, List.forall_mem_cons, List.forall_mem_singleton] at hNames
  obtain ⟨st₁, hTable⟩ := exists_ends_readTable_twoPackages
  have hTree : st₁.tree = .empty := State.tree_eq ((keeps_readTable _ _).of_ends hTable)
  have hSettings : Ends (readSettings twoPackages twoPackagesArguments) st₁ {} st₁ := rfl
  obtain ⟨r₁, hOutcome₁, hComplete₁⟩ : ∃ r, (RClass.toFile twoPackagesTable (.ofText "out/gen")
      (.text "app") {} st₁.tree).outcome = .ok r ∧ r.isComplete = true := by
    rw [hTree]
    exact Outcome.map_eq_ok_iff.1 (by decide +kernel)
  obtain ⟨st₂, hFirst, hLeft⟩ :=
    exists_ends_outputBelow hNames.1 (List.all_eq_true.1 (by decide +kernel)) hOutcome₁ hComplete₁
  -- The second class is written into the tree that the first one leaves.
  obtain ⟨r₂, hOutcome₂, hComplete₂⟩ : ∃ r, (RClass.toFile twoPackagesTable (.ofText "out/gen")
      (.text "lib.x") {} st₂.tree).outcome = .ok r ∧ r.isComplete = true := by
    rw [hLeft, hTree]
    exact Outcome.map_eq_ok_iff.1 (by decide +kernel)
  obtain ⟨st₃, hSecond, -⟩ :=
    exists_ends_outputBelow hNames.2 (List.all_eq_true.1 (by decide +kernel)) hOutcome₂ hComplete₂
  have hPackages : packagesOf twoPackagesArguments twoPackagesTable {} = ["app", "lib.x"] :=
    packages_twoPackagesTable
  have hRoot : given twoPackagesArguments.outputDir = some "out/gen" := rfl
  refine ⟨st₃, ends_bind_iff.2 ⟨(), _, rfl, ?_⟩⟩
  refine ends_bind_iff.2 ⟨_, st₁, hTable, ends_bind_iff.2 ⟨{}, st₁, hSettings, ?_⟩⟩
  rw [hPackages, ends_outputAll_cons_iff hRoot]
  refine ⟨r₁, st₂, st₂, hFirst, .inr ⟨rfl, rfl⟩, ?_⟩
  rw [ends_outputAll_cons_iff hRoot]
  exact ⟨r₂, st₃, st₃, hSecond, .inr ⟨rfl, rfl⟩, ends_pure_iff.2 ⟨rfl, rfl⟩⟩

theorem run_all_packages_twoPackages :
    (run twoPackages twoPackagesWords).status = .ok 0 ∧
    twoPackagesTable.packages = ["app", "lib.x"] ∧
    ∃ l, (run twoPackages twoPackagesWords).state.tree.LeadsTo (.ofText "out/gen") l ∧
      ∀ k octets,
        (run twoPackages twoPackagesWords).state.tree.octets? (l ++ k) = some octets ↔
          ∃ p ∈ twoPackagesTable.packages, ∃ source,
            (RClass.toSource twoPackagesTable (.text p) {}).1 = .ok source ∧
            k = fileNames p ∧ Text.Utf8.encode source.code = .ok octets := by
  obtain ⟨st, hTable⟩ := exists_ends_readTable_twoPackages
  obtain ⟨-, -, l, hLeads, -, -, hFiles⟩ := run_all_packages read_twoPackagesWords rfl rfl
    (congrArg Prod.fst hTable) rfl noWarnings_twoPackagesTable status_run_twoPackages
  exact ⟨status_run_twoPackages, packages_twoPackagesTable, l, hLeads,
    hFiles fun _ => Tree.empty_octets? _⟩

end Command

end ResourceSymbols
