import ResourceSymbols.Proofs.CommandSteps
import ResourceSymbols.Proofs.InputFaults
import ResourceSymbols.Proofs.Printing
import ResourceSymbols.Proofs.WellFormed

/-!
# How a run ends

A run ends with status 0 or 1, or with a failure that is not reported.  Here the inputs
are told that such a failure takes: an `Escape` for each of them.

## Main results

* `yields_readTable`, `yields_readSettings`, `yields_outputAll` — the steps of a run.
* `status_run` — how a run ends.
-/

namespace ResourceSymbols.Command

open ResourceSymbols.Outcome (Meets meets_of_error run_tryCatch)
open Resource (Table)
open RClass (Result toSource targetOf)
open Files (Path)

/-! ## What a run shows -/

variable {w : Surroundings} {a : Arguments} {t : Table} {s : Settings}

/-- The table and the settings of a run.  What the settings say about the package is a
text, if it is to be looked at. -/
structure Loaded (w : Surroundings) (a : Arguments) (t : Table) (s : Settings) : Prop where
  table : ∃ v, Reads w a v ∧ Table.ofDocument v = .ok t
  settings : Settings.load w.tree (.object (overrides a)) (.ofText? a.config) = .ok s
  named : s.packageName.isTruthy = true → s.packageName.text?.isSome = true

/-- The path that a class is written to, if not below a source root. -/
inductive OutputPath (a : Arguments) (s : Settings) : String → Prop
  | argument {path : String} (hRoot : given a.outputDir = none)
      (hPath : given a.output = some path) : OutputPath a s path
  | setting {path : String} (hRoot : given a.outputDir = none) (hNone : given a.output = none)
      (hPath : s.outputFile = .text path) : OutputPath a s path

/-- What comes of the class of a package, as a text or in its file. -/
inductive Generated (a : Arguments) (t : Table) (s : Settings) (package : String) : Result → Prop
  | text {source : RClass.Source} (hRoot : given a.outputDir = none)
      (hSource : (toSource t (.text package) s).1 = .ok source) :
      Generated a t s package source.result
  | file {root p : String} {r : Result} (hRoot : given a.outputDir = some root)
      (hTarget : targetOf (.text package) s t = .text p)
      (hResult : RClass.InFile t (.text package) s p (RClass.path (.ofText root) p).text r) :
      Generated a t s package r

/-- The texts that a run says something about. -/
inductive Shows (w : Surroundings) (a : Arguments) : String → Prop
  /-- A doubt about the settings. -/
  | warning {s : Settings} {ws : List String} {text : String}
      (hSettings : Settings.load w.tree (.object (overrides a)) (.ofText? a.config) = .ok s)
      (hWarnings : s.warnings true = .ok ws) (hText : text ∈ ws) : Shows w a text
  /-- The failure that is reported. -/
  | failure {f : Failure} {st : State}
      (hFails : (perform w a).run.run { tree := w.tree } = (.error f, st))
      (hReported : f.isReported = true) : Shows w a f.message
  /-- Why a class is not complete. -/
  | message {t : Table} {s : Settings} {package : String} {r : Result} (hLoaded : Loaded w a t s)
      (hPackage : package ∈ packagesOf a t s) (hResult : Generated a t s package r) :
      Shows w a (r.message?.getD "")
  /-- A package whose class was written. -/
  | package {t : Table} {s : Settings} {package : String} (hLoaded : Loaded w a t s)
      (hPackage : package ∈ packagesOf a t s) : Shows w a package
  /-- The path that it was written to. -/
  | below {t : Table} {s : Settings} {package root p : String} (hLoaded : Loaded w a t s)
      (hPackage : package ∈ packagesOf a t s) (hRoot : given a.outputDir = some root)
      (hTarget : targetOf (.text package) s t = .text p) :
      Shows w a (RClass.path (.ofText root) p).text
  | output {t : Table} {s : Settings} {path : String} (hLoaded : Loaded w a t s)
      (hPath : OutputPath a s path) : Shows w a (Path.ofText path).text
  /-- Why it could not be written there. -/
  | unwritten {t : Table} {s : Settings} {path : String} {tree : Files.Tree}
      {octets : List UInt8} {e : Files.Error} (hLoaded : Loaded w a t s)
      (hPath : OutputPath a s path) (hError : tree.write (.ofText path) octets = .error e) :
      Shows w a e.message
  /-- A finding about a class. -/
  | finding {t : Table} {s : Settings} {package text : String} {r : Result}
      {m : String × Json.Value} (hLoaded : Loaded w a t s) (hPackage : package ∈ packagesOf a t s)
      (hVerbose : a.verbose = true) (hResult : Generated a t s package r) (hField : m ∈ r.fields)
      (hText : m.2.shown? = some text) : Shows w a text

/-! ## What ends a run -/

/-- What goes wrong with the output and is not reported. -/
inductive OutputFault (a : Arguments) (t : Table) (s : Settings) : Failure → Prop
  /-- What the settings give for the file is no path. -/
  | path (hRoot : given a.outputDir = none) (hNone : given a.output = none)
      (hSome : s.outputFile.isTruthy = true) (hText : s.outputFile.text? = none) :
      OutputFault a t s (.misuse (.notAPath s.outputFile.kindName))
  /-- The path of the file holds a null, or half of a pair without an octet. -/
  | noPath {path : String} {fault : Files.PathFault} (hPath : OutputPath a s path)
      (hText : Files.NoPath path) : OutputFault a t s (.file (.noPath fault))
  /-- The path of a class below the source root does. -/
  | noPathBelow {root package p : String} {fault : Files.PathFault}
      (hRoot : given a.outputDir = some root) (hPackage : package ∈ packagesOf a t s)
      (hTarget : targetOf (.text package) s t = .text p)
      (hText : Files.NoPath root ∨ Files.NoPath p) :
      OutputFault a t s (.output (.file (.noPath fault)))
  /-- A class that is not written below a source root holds half of a pair. -/
  | unencodable {package : String} {source : RClass.Source} {u : Text.Utf8.Unencodable}
      (hRoot : given a.outputDir = none) (hPackage : package ∈ packagesOf a t s)
      (hSource : (toSource t (.text package) s).1 = .ok source)
      (hComplete : source.result.isComplete = true)
      (hHalf : .half u.half ∈ Text.codePoints source.code.toList) :
      OutputFault a t s (.unencodable u)
  /-- A finding about a class has too many digits to be shown. -/
  | digits {package : String} {r : Result} {m : String × Json.Value}
      (hPackage : package ∈ packagesOf a t s) (hVerbose : a.verbose = true)
      (hResult : Generated a t s package r) (hField : m ∈ r.fields) (hLong : m.2.shown? = none) :
      OutputFault a t s (.misuse .digitLimit)

/-- The failures that end a run without a report, and the inputs that they take. -/
inductive Escape (w : Surroundings) (a : Arguments) : Failure → Prop
  /-- The level of the log is none. -/
  | level (hLevel : a.logLevel = none) : Escape w a (.level (.notALevel "[]"))
  /-- The standard input is not in UTF-8. -/
  | undecodable {fault : Text.Utf8.Fault} (hFile : given a.file = none)
      (hUrl : given a.url = none) (hStdin : a.stdin = true)
      (hText : Text.Utf8.decode w.stdin = .error fault) : Escape w a (.undecodable fault)
  /-- The standard input goes beyond the limits on documents. -/
  | excess {text : List Char} {x : Json.Excess} (hFile : given a.file = none)
      (hUrl : given a.url = none) (hStdin : a.stdin = true)
      (hText : Text.Utf8.decode w.stdin = .ok text)
      (hRead : Json.Value.read (Text.foldLineEnds text) = .error (.excess x)) :
      Escape w a (.excess x)
  /-- The file or the response is at fault. -/
  | source {e : Resource.Source.Error} (hFault : SourceFault w a e) : Escape w a (.source e)
  /-- What is gone through in the document has no items, or it holds an integer with too
  many digits. -/
  | document {v : Json.Value} {m : Json.Misuse} (hReads : Reads w a v)
      (hTable : Table.ofDocument v = .error (.misuse m))
      (hFault : Resource.Document.HoldsLongInteger v ∨ Resource.Document.Stuck v (.misuse m)) :
      Escape w a (.document (.misuse m))
  /-- The file of settings is at fault. -/
  | settings {e : Settings.Error} (hFault : SettingsFault w a e) : Escape w a (.settings e)
  /-- Nothing can be said about the settings. -/
  | review {s : Settings} {m : Json.Misuse}
      (hSettings : Settings.load w.tree (.object (overrides a)) (.ofText? a.config) = .ok s)
      (hFault : ReviewFault s m) : Escape w a (.misuse m)
  /-- The output is at fault. -/
  | output {t : Table} {s : Settings} {f : Failure} (hLoaded : Loaded w a t s)
      (hFault : OutputFault a t s f) : Escape w a f
  /-- A tag may start in a text that is shown. -/
  | console {e : Console.Error} {text : String} (hShows : Shows w a text)
      (hTag : Console.MayTag text.toList) : Escape w a (.console e)

/-- The failure is reported, or it escapes. -/
def Expected (w : Surroundings) (a : Arguments) (f : Failure) : Prop :=
  f.isReported = true ∨ Escape w a f

/-! ## Steps -/

/-- What is printed can be printed, unless a tag may start in what is shown. -/
theorem meets_console {α : Type} {x : Except Console.Error α}
    (hPlain : (∀ text, Shows w a text → ¬ Console.MayTag text.toList) → ∃ v, x = .ok v) :
    Meets (fun _ => True) (fun e => Escape w a (.console e)) x := by
  cases x with
  | ok v => exact .ok trivial
  | error e =>
      refine .error ?_
      by_contra hNone
      obtain ⟨v, hNever⟩ := hPlain fun text hShows hTag => hNone (.console hShows hTag)
      cases hNever

theorem yields_message {markup : String}
    (hPlain : (∀ text, Shows w a text → ¬ Console.MayTag text.toList) →
      ∃ line, Console.printed markup = .ok line) :
    Yields (fun _ => True) (Escape w a) (say markup) := by
  have hPrinted := meets_console hPlain
  unfold say
  cases hMarkup : Console.printed markup with
  | ok line => exact yields_modify _
  | error e =>
      rw [hMarkup] at hPrinted
      cases hPrinted with
      | error hEscape => exact yields_throw hEscape

theorem yields_say {markup : String}
    (hPlain : (∀ text, Shows w a text → ¬ Console.MayTag text.toList) →
      ∃ line, Console.printed markup = .ok line) :
    Yields (fun _ => True) (Expected w a) (say markup) :=
  (yields_message hPlain).mono fun _ => .inr

theorem yields_checkOutputs : Yields (fun _ => True) (Expected w a) (checkOutputs a) := by
  unfold checkOutputs
  split
  · exact yields_throw (.inl rfl)
  · split
    · exact yields_throw (.inl rfl)
    · exact yields_pure trivial

theorem yields_readStdin (hFile : given a.file = none) (hUrl : given a.url = none)
    (hStdin : a.stdin = true) : Yields (Reads w a) (Expected w a) (readStdin w.stdin) := by
  unfold readStdin
  have hText : Yields (fun text => Text.Utf8.decode w.stdin = .ok text) (Expected w a)
      (orFail .undecodable (Text.Utf8.decode w.stdin)) :=
    yields_orFail (meets_of_error fun fault hFault =>
      .inr (.undecodable hFile hUrl hStdin hFault))
  refine yields_bind hText fun text hText => ?_
  split
  · rename_i v hRead
    exact yields_pure (.stdin hFile hUrl hStdin hText hRead)
  · exact yields_throw (.inl rfl)
  · rename_i x hRead
    exact yields_throw (.inr (.excess hFile hUrl hStdin hText hRead))

theorem yields_readDocument : Yields (Reads w a) (Expected w a) (readDocument w a) := by
  unfold readDocument
  split
  · refine yields_bind (yields_modify _) fun _ _ => yields_bind (yields_record _) fun _ _ => ?_
    refine yields_bind (yields_orFail ?_) fun f hReads => yields_pure hReads
    refine meets_find.mono ?_
    rintro e (hReported | hFault)
    · exact .inl hReported
    · exact .inr (.source hFault)
  · rename_i hNone
    have hNone : given a.file = none ∧ given a.url = none := by
      simpa using hNone
    split
    · rename_i hStdin
      exact yields_readStdin hNone.1 hNone.2 hStdin
    · exact yields_throw (.inl rfl)

/-- A document that is misused is one of two kinds. -/
theorem expected_document {v : Json.Value} (hReads : Reads w a v) {e : Resource.Document.Error}
    (hTable : Table.ofDocument v = .error e) : Expected w a (.document e) := by
  cases e with
  | malformed f => exact .inl rfl
  | misuse m =>
      refine .inr (.document hReads hTable ?_)
      rcases Resource.Document.ofDocument_refused hTable with hRefused | hStuck
      · cases hRefused with
        | digitLimit hLong => exact .inl hLong
      · exact .inr hStuck

theorem yields_readTable :
    Yields (fun t => ∃ v, Reads w a v ∧ Table.ofDocument v = .ok t) (Expected w a)
      (readTable w a) := by
  unfold readTable
  refine yields_bind yields_readDocument fun v hReads => ?_
  have hTable : Yields (fun t => Table.ofDocument v = .ok t) (Expected w a)
      (orFail .document (Table.ofDocument v)) :=
    yields_orFail (meets_of_error fun e hError => expected_document hReads hError)
  refine yields_bind hTable fun t hTable => yields_bind (yields_record _) fun _ _ => ?_
  exact yields_pure ⟨v, hReads, hTable⟩

theorem yields_readSettings :
    Yields
      (fun s => Settings.load w.tree (.object (overrides a)) (.ofText? a.config) = .ok s ∧
        (s.packageName.isTruthy = true → s.packageName.text?.isSome = true))
      (Expected w a) (readSettings w a) := by
  unfold readSettings
  have hLoad : Yields
      (fun s => Settings.load w.tree (.object (overrides a)) (.ofText? a.config) = .ok s ∧ True)
      (Expected w a)
      (orFail .settings (Settings.load w.tree (.object (overrides a)) (.ofText? a.config))) := by
    refine yields_orFail (meets_load.eq_ok.mono ?_)
    rintro e (hReported | hFault)
    · exact .inl hReported
    · exact .inr (.settings hFault)
  refine yields_bind hLoad fun s hSettings => ?_
  have hReview := (meets_warnings s).eq_ok.mono fun m hFault =>
    (.inr (.review hSettings.1 hFault) : Expected w a (.misuse m))
  refine yields_bind (yields_orFail hReview) fun warnings hWarnings => ?_
  have hSay : Yields (fun _ => True) (Expected w a)
      (warnings.forM fun warning => say s!"[yellow]⚠️  {warning}[/yellow]") :=
    yields_forM fun warning hMem => yields_say fun hPlain =>
      Console.exists_printed_warning (hPlain _ (.warning hSettings.1 hWarnings.1 hMem))
  exact yields_bind hSay fun _ _ => yields_pure ⟨hSettings.1, hWarnings.2⟩

/-! ## Output -/

/-- The names of the findings about a class. -/
def findingNames : List String :=
  ["language", "file_extension", "package", "table_package", "type_count", "constants",
    "styleables", "skipped", "output_file"]

theorem mem_findingNames {r : Result} {m : String × Json.Value} (hField : m ∈ r.fields) :
    m.1 ∈ findingNames := by
  have hNames : ∀ summary : RClass.Summary, summary.fields.map Prod.fst <+: findingNames := by
    intro summary
    unfold RClass.Summary.fields
    cases summary.path with
    | none => exact ⟨["output_file"], rfl⟩
    | some path => exact ⟨[], rfl⟩
  cases r with
  | complete summary => exact (hNames summary).subset (List.mem_map_of_mem hField)
  | aborted summary o => exact (hNames summary).subset (List.mem_map_of_mem hField)
  | failed i => cases hField

/-- The names of findings are shown without tags. -/
theorem not_mayTag_titled {r : Result} {m : String × Json.Value} (hField : m ∈ r.fields) :
    ¬ Console.MayTag (titled m.1).toList := by
  have hPlain : ∀ name ∈ findingNames, '[' ∉ (titled name).toList := by decide +kernel
  exact Console.not_mayTag_of_not_mem (hPlain _ (mem_findingNames hField))

/-- The findings are shown row by row, unless one of them has too many digits. -/
theorem rowsOf_cases (fields : Json.Members) :
    (rowsOf fields = none ∧ ∃ m ∈ fields, m.2.shown? = none) ∨
      ∃ rows, rowsOf fields = some rows ∧
        ∀ row ∈ rows, ∃ m ∈ fields, row.property = titled m.1 ∧ m.2.shown? = some row.value := by
  unfold rowsOf
  induction fields with
  | nil => exact .inr ⟨[], rfl, List.forall_mem_nil _⟩
  | cons m fields ih =>
      rw [List.mapM_cons]
      cases hValue : m.2.shown? with
      | none => exact .inl ⟨rfl, m, List.mem_cons_self, hValue⟩
      | some value =>
          rcases ih with ⟨hNone, n, hn, hLong⟩ | ⟨rows, hRows, hShown⟩
          · rw [hNone]
            exact .inl ⟨rfl, n, List.mem_cons_of_mem _ hn, hLong⟩
          · rw [hRows]
            refine .inr ⟨_, rfl, List.forall_mem_cons.2 ⟨?_, fun row hRow => ?_⟩⟩
            · exact ⟨m, List.mem_cons_self, rfl, hValue⟩
            · obtain ⟨n, hn, hRow⟩ := hShown row hRow
              exact ⟨n, List.mem_cons_of_mem _ hn, hRow⟩

/-- Why the findings about a class cannot be shown. -/
inductive FindingFault (fields : Json.Members) : Failure → Prop
  /-- A finding has too many digits. -/
  | digits {m : String × Json.Value} (hField : m ∈ fields) (hLong : m.2.shown? = none) :
      FindingFault fields (.misuse .digitLimit)
  /-- A tag may start in a finding. -/
  | tag {m : String × Json.Value} {text : String} {e : Console.Error} (hField : m ∈ fields)
      (hText : m.2.shown? = some text) (hTag : Console.MayTag text.toList) :
      FindingFault fields (.console e)

theorem yields_findings (r : Result) :
    Yields (fun _ => True) (FindingFault r.fields) (printFields r.fields) := by
  unfold printFields
  rcases rowsOf_cases r.fields with ⟨hRows, m, hField, hLong⟩ | ⟨rows, hRows, hShown⟩
  · rw [hRows]
    exact yields_throw (.digits hField hLong)
  · rw [hRows]
    have hSay : Yields (fun _ => True) (FindingFault r.fields) (say "") := by
      obtain ⟨line, hLine⟩ : ∃ line, Console.printed "" = .ok line :=
        Console.exists_printed_of_tame Console.tame_nil
      unfold say
      rw [hLine]
      exact yields_modify _
    have hSheet : Meets (fun _ => True) (fun e => FindingFault r.fields (.console e))
        (Console.sheet "📊 Generation Metadata" { property := "Property", value := "Value" }
          rows) := by
      cases hError : Console.sheet "📊 Generation Metadata"
          { property := "Property", value := "Value" } rows with
      | ok text => exact .ok trivial
      | error e =>
          refine .error ?_
          by_contra hNone
          obtain ⟨text, hText⟩ : ∃ text, Console.sheet "📊 Generation Metadata"
              { property := "Property", value := "Value" } rows = .ok text := by
            refine Console.exists_sheet (List.forall_mem_cons.2 ⟨?_, fun row hRow => ?_⟩)
            · exact ⟨Console.not_mayTag_of_not_mem (by decide),
                Console.not_mayTag_of_not_mem (by decide)⟩
            · obtain ⟨m, hField, hName, hText⟩ := hShown row hRow
              refine ⟨hName ▸ not_mayTag_titled hField, fun hTag => ?_⟩
              exact hNone (.tag hField hText hTag)
          cases hError.symm.trans hText
    exact yields_bind hSay fun _ _ => yields_bind (yields_orFail hSheet) fun _ _ => yields_modify _

section

variable (hLoaded : Loaded w a t s)

include hLoaded

theorem Loaded.wellFormed : t.WellFormed := by
  obtain ⟨v, -, hTable⟩ := hLoaded.table
  exact Table.wellFormed_of_ofDocument hTable

/-- A class is generated for a package with a name. -/
theorem Loaded.exists_targetOf (package : String) :
    ∃ p, targetOf (.text package) s t = .text p := by
  unfold targetOf
  split
  · exact ⟨_, rfl⟩
  · split
    · rename_i hSome
      obtain ⟨p, hText⟩ := Option.isSome_iff_exists.1 (hLoaded.named hSome)
      exact ⟨p, Json.Value.eq_text_of_text? hText⟩
    · exact ⟨_, rfl⟩

/-- The path is one that is given, or none is. -/
theorem yields_outputPath (hRoot : given a.outputDir = none) :
    Yields (fun p => ∀ q, p = some q → ∃ path, q = .ofText path ∧ OutputPath a s path)
      (Expected w a) (outputPath a s) := by
  unfold outputPath
  split
  · rename_i path hPath
    refine yields_pure ?_
    rintro q hSame
    exact ⟨path, (Option.some.inj hSame).symm, .argument hRoot hPath⟩
  · rename_i hNone
    split
    · rename_i hSome
      split
      · rename_i path hPath
        refine yields_pure ?_
        rintro q hSame
        exact ⟨path, (Option.some.inj hSame).symm, .setting hRoot hNone hPath⟩
      · rename_i v hOther
        refine yields_throw (.inr (.output hLoaded (.path hRoot hNone hSome ?_)))
        cases hFile : s.outputFile with
        | text path => exact absurd hFile (hOther path)
        | _ => rfl
    · refine yields_pure ?_
      rintro q hNever
      cases hNever

variable {package : String} (hPackage : package ∈ packagesOf a t s)

include hPackage

/-- A class that is complete has octets, or it holds half of a pair. -/
theorem yields_encode {source : RClass.Source} (hRoot : given a.outputDir = none)
    (hSource : (toSource t (.text package) s).1 = .ok source)
    (hComplete : source.result.isComplete = true) :
    Yields (fun _ => True) (Expected w a)
      (orFail .unencodable (Text.Utf8.encode source.code)) := by
  refine yields_orFail ?_
  cases hOctets : Text.Utf8.encode source.code with
  | ok octets => exact .ok trivial
  | error u =>
      have hHalf := Text.Utf8.half_mem_of_encode_eq_error hOctets
      exact .error (.inr (.output hLoaded
        (.unencodable hRoot hPackage hSource hComplete hHalf)))

theorem yields_writeFile {path : String} (hPath : OutputPath a s path) {source : RClass.Source}
    (hRoot : given a.outputDir = none) (hSource : (toSource t (.text package) s).1 = .ok source)
    (hComplete : source.result.isComplete = true) :
    Yields (fun _ => True) (Expected w a) (writeFile (.ofText path) source.code) := by
  unfold writeFile
  refine yields_bind yields_get fun st _ => ?_
  split
  · rename_i fault hFault
    refine yields_throw (.inr (.output hLoaded (.noPath hPath ?_)))
    by_contra hText
    have hProper := Path.proper_ofText (Files.pathText_of_not_noPath hText)
    exact Files.Tree.write_ne_noPath hProper _ _ hFault
  · rename_i e hError
    refine yields_bind (yields_say fun hPlain => ?_) fun _ _ => yields_pure trivial
    exact Console.exists_printed_unwritten (hPlain _ (.output hLoaded hPath))
      (hPlain _ (.unwritten hLoaded hPath hError))
  · rename_i opened hOpen
    refine yields_bind (yields_modify _) fun _ _ => ?_
    refine yields_bind (yields_encode hLoaded hPackage hRoot hSource hComplete) fun octets _ => ?_
    -- The file is there now, and can be written again.
    obtain ⟨tree', hFill, -⟩ := Files.Tree.exists_write_of_opened hOpen octets
    have hNow : Yields (fun _ => True) (Expected w a)
        (orFail .file (opened.write (.ofText path) octets)) := by
      rw [hFill]
      exact yields_pure trivial
    refine yields_bind hNow fun _ _ => yields_bind (yields_modify _) fun _ _ => ?_
    refine yields_bind (yields_say fun hPlain => ?_) fun _ _ => yields_pure trivial
    exact Console.exists_printed_saved (hPlain _ (.output hLoaded hPath))

theorem yields_sayFailed {r : Result} (hResult : Generated a t s package r) :
    Yields (fun _ => True) (Expected w a) (sayFailed r) :=
  yields_say fun hPlain =>
    Console.exists_printed_error (hPlain _ (.message hLoaded hPackage hResult))

/-- What is said to be written is where the class of the package lies. -/
theorem yields_outputBelow {root : String} (hRoot : given a.outputDir = some root) :
    Yields (fun written => ∀ r, written = some r → Generated a t s package r) (Expected w a)
      (outputBelow t s root package) := by
  obtain ⟨p, hTarget⟩ := hLoaded.exists_targetOf package
  unfold outputBelow
  refine yields_bind yields_get fun st _ => yields_bind (yields_modify _) fun _ _ => ?_
  refine yields_bind (yields_record _) fun _ _ => ?_
  have hOutcome : Yields
      (RClass.InFile t (.text package) s p (RClass.path (.ofText root) p).text) (Expected w a)
      (orFail .output (RClass.toFile t (.ofText root) (.text package) s st.tree).outcome) := by
    refine yields_orFail ((RClass.meets_toFile hLoaded.wellFormed hTarget st.tree).mono ?_)
    rintro _ ⟨cause, rfl, hText⟩
    cases cause with
    | refused c q => exact .inl rfl
    | noPath fault =>
        exact .inr (.output hLoaded (.noPathBelow hRoot hPackage hTarget (hText fault rfl)))
  refine yields_bind hOutcome fun r hResult => ?_
  have hGenerated := Generated.file hRoot hTarget hResult
  split
  · refine yields_bind (yields_say fun hPlain => ?_) fun _ _ => yields_pure ?_
    · rename_i hComplete
      rw [hResult.output_file hComplete]
      exact Console.exists_printed_wrote (hPlain _ (.package hLoaded hPackage))
        (hPlain _ (.below hLoaded hPackage hRoot hTarget))
    · rintro r hSame
      exact Option.some.inj hSame ▸ hGenerated
  · exact yields_bind (yields_sayFailed hLoaded hPackage hGenerated) fun _ _ => yields_pure nofun

theorem yields_outputOne (hRoot : given a.outputDir = none) :
    Yields (fun written => ∀ r, written = some r → Generated a t s package r) (Expected w a)
      (outputOne a t s (.text package)) := by
  obtain ⟨p, hTarget⟩ := hLoaded.exists_targetOf package
  obtain ⟨source, hSource, -⟩ := RClass.toSource_of_target hLoaded.wellFormed hTarget
  have hGenerated : ∀ r, some source.result = some r → Generated a t s package r :=
    fun r hSame => Option.some.inj hSame ▸ .text hRoot hSource
  have hNever : ∀ r, none = some r → Generated a t s package r := by
    rintro r hNever
    cases hNever
  unfold outputOne
  rcases hFirst : toSource t (.text package) s with ⟨outcome, log⟩
  rw [hFirst] at hSource
  dsimp only at hSource ⊢
  subst hSource
  refine yields_bind (yields_record _) fun _ _ => ?_
  have hNow : Yields (fun x => x = source) (Expected w a) (orFail .output (.ok source)) :=
    yields_pure rfl
  refine yields_bind hNow fun found hFound => ?_
  subst found
  split
  · rename_i hComplete
    have hSource := congrArg Prod.fst hFirst
    refine yields_bind (yields_outputPath hLoaded hRoot) fun file hFile => ?_
    split
    · obtain ⟨path, rfl, hPath⟩ := hFile _ rfl
      refine yields_bind (yields_writeFile hLoaded hPackage hPath hRoot hSource hComplete)
        fun isWritten _ => yields_pure ?_
      cases isWritten with
      | true => exact hGenerated
      | false => exact hNever
    · have hPut : Yields (fun _ => True) (Expected w a) (writeStdout source.code) :=
        yields_bind (yields_encode hLoaded hPackage hRoot hSource hComplete)
          fun _ _ => yields_modify _
      exact yields_bind hPut fun _ _ => yields_pure hGenerated
  · refine yields_bind (yields_sayFailed hLoaded hPackage ?_) fun _ _ => yields_pure hNever
    exact hGenerated _ rfl

theorem yields_printFields {r : Result} (hVerbose : a.verbose = true)
    (hResult : Generated a t s package r) :
    Yields (fun _ => True) (Expected w a) (printFields r.fields) := by
  refine (yields_findings r).mono fun f hFault => ?_
  cases hFault with
  | digits hField hLong =>
      exact .inr (.output hLoaded (.digits hPackage hVerbose hResult hField hLong))
  | tag hField hText hTag =>
      exact .inr (.console (.finding hLoaded hPackage hVerbose hResult hField hText) hTag)

omit hPackage

/-- The classes of packages are written, and findings about them are shown, until one of
them fails. -/
theorem yields_outputAll {packages : List String}
    (hAll : ∀ package ∈ packages, package ∈ packagesOf a t s) :
    Yields (fun n => n = 0 ∨ n = 1) (Expected w a) (outputAll a t s packages) := by
  induction packages with
  | nil => exact yields_pure (.inl rfl)
  | cons package packages ih =>
      rw [List.forall_mem_cons] at hAll
      have hRest : ∀ r, Generated a t s package r →
          Yields (fun n => n = 0 ∨ n = 1) (Expected w a) (do
            if a.verbose then printFields r.fields
            outputAll a t s packages) := by
        intro r hResult
        dsimp only
        split
        · rename_i hVerbose
          exact yields_bind (yields_printFields hLoaded hAll.1 hVerbose hResult)
            fun _ _ => ih hAll.2
        · exact ih hAll.2
      rw [outputAll]
      split
      · rename_i root hRoot
        refine yields_bind (yields_outputBelow hLoaded hAll.1 hRoot) fun written hResult => ?_
        cases written with
        | none => exact yields_pure (.inr rfl)
        | some r => exact hRest r (hResult r rfl)
      · rename_i hRoot
        refine yields_bind (yields_outputOne hLoaded hAll.1 hRoot) fun written hResult => ?_
        cases written with
        | none => exact yields_pure (.inr rfl)
        | some r => exact hRest r (hResult r rfl)

end

/-! ## Whole runs -/

theorem yields_perform : Yields (fun n => n = 0 ∨ n = 1) (Expected w a) (perform w a) := by
  unfold perform
  refine yields_bind yields_checkOutputs fun _ _ => ?_
  refine yields_bind yields_readTable fun t hTable => ?_
  refine yields_bind yields_readSettings fun s hSettings => ?_
  exact yields_outputAll ⟨hTable, hSettings.1, hSettings.2⟩ fun _ hMem => hMem

/-- What fails is reported, unless it is not to be. -/
theorem yields_report {f : Failure} {st : State}
    (hFails : (perform w a).run.run { tree := w.tree } = (.error f, st))
    (hExpected : Expected w a f) : Yields (fun n => n = 0 ∨ n = 1) (Escape w a) (report f) := by
  unfold report
  cases hReported : f.isReported with
  | true =>
      refine yields_bind (yields_message fun hPlain => ?_) fun _ _ => ?_
      · exact Console.exists_printed_error (hPlain _ (.failure hFails hReported))
      · split
        · exact yields_bind (yields_record _) fun _ _ => yields_pure (.inr rfl)
        · exact yields_pure (.inr rfl)
  | false =>
      refine yields_throw (hExpected.resolve_left ?_)
      rw [hReported]
      exact Bool.false_ne_true

/-- What escapes is no failure that is reported. -/
theorem Escape.isReported_eq_false {f : Failure} (h : Escape w a f) : f.isReported = false := by
  cases h with
  | level | undecodable | excess | document | review | console => rfl
  | source hFault => cases hFault <;> rfl
  | settings hFault => cases hFault <;> rfl
  | output hLoaded hFault => cases hFault <;> rfl

/-- A run whose words are arguments ends with status 0 or with status 1, or else with a
failure that is not reported and that its inputs account for. -/
theorem status_run {words : List String} (hWords : Arguments.read words = .ok a) :
    (run w words).status = .ok 0 ∨ (run w words).status = .ok 1 ∨
      ∃ f, (run w words).status = .error f ∧ f.isReported = false ∧ Escape w a f := by
  have hRun : Meets (fun n => n = 0 ∨ n = 1) (Escape w a) (run w words).status := by
    rw [run, hWords]
    dsimp only
    unfold runWith
    cases hLevel : a.logLevel with
    | none => exact .error (.level hLevel)
    | some level =>
        simp only [run_tryCatch]
        have hPerform := yields_perform (w := w) (a := a) { tree := w.tree }
        rcases hFirst : (perform w a).run.run { tree := w.tree } with ⟨f | n, st⟩
        · rw [hFirst] at hPerform
          cases hPerform with
          | error hExpected =>
              exact yields_report hFirst hExpected st
        · rw [hFirst] at hPerform
          cases hPerform with
          | ok hStatus => exact .ok hStatus
  rcases hStatus : (run w words).status with f | n
  · rw [hStatus] at hRun
    cases hRun with
    | error h => exact .inr (.inr ⟨f, rfl, h.isReported_eq_false, h⟩)
  · rw [hStatus] at hRun
    cases hRun with
    | ok h => exact h.imp (congrArg _) fun h => .inl (congrArg _ h)

/-- The standard input is one octet, and no text in UTF-8. -/
def loneOctet : Surroundings :=
  { tree := .empty, stdin := [0xFF], exchange := .trouble .http "" }

theorem read_loneOctet : Arguments.read ["--stdin"] = .ok { stdin := true } := by
  decide +kernel

theorem status_loneOctet : (run loneOctet ["--stdin"]).status =
    .error (.undecodable { start := 0, count := 1, octet := 0xFF, defect := .start }) := by
  rw [run, read_loneOctet]
  rfl

/-- The run ends with a failure that its input accounts for. -/
theorem status_run_loneOctet :
    Arguments.read ["--stdin"] = .ok { stdin := true } ∧
    ∃ f, (run loneOctet ["--stdin"]).status = .error f ∧ f.isReported = false ∧
      Escape loneOctet { stdin := true } f := by
  refine ⟨read_loneOctet, ?_⟩
  rcases status_run (w := loneOctet) read_loneOctet with hZero | hOne | hFailure
  · rw [status_loneOctet] at hZero
    cases hZero
  · rw [status_loneOctet] at hOne
    cases hOne
  · exact hFailure

/-- The octet ends the run with a failure that is not reported. -/
theorem not_reported_loneOctet :
    Arguments.read ["--stdin"] = .ok { stdin := true } ∧
    ∃ fault, (run loneOctet ["--stdin"]).status = .error (.undecodable fault) ∧
      Failure.isReported (.undecodable fault) = false :=
  ⟨read_loneOctet, _, status_loneOctet, rfl⟩

end ResourceSymbols.Command
