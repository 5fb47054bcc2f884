import ResourceSymbols.Proofs.Directories
import ResourceSymbols.Proofs.Emission
import ResourceSymbols.Proofs.Encoding
import ResourceSymbols.RClass.Output

/-!
# Classes written to files

A class that goes into a file is there whole or not at all.  Either the generation
does not start, and then no file has come or changed, and only a protected file in the
place of the class has gone; or it starts, and then what comes of it is what comes of the
class as a text, unless a piece has no octets.  The file of the class stands exactly when
the class is complete, and every other file is as it was.  What was begun can stay only in a
directory that lets nothing be removed, and this is told as an error.

## Main results

* `takeFrom_encoded` — what a sink takes that encodes.
* `outcome_generateGuarded_eq_error` — only a mistake in the table gets past the
  guard of a generation.
* `writeAt_of_refused`, `writeAt_settled` — a writing whose file cannot be opened,
  and one whose file can.
* `toFile_all_or_nothing` — classes in files and classes as texts.
-/

namespace ResourceSymbols.RClass

open Resource (Table)
open Text.Utf8 (encode Encodable encodable_join)

/-! ## Pieces with octets -/

/-- The first piece without octets stands after pieces that have them. -/
structure Unencodable (pieces : List String) (taken : List String)
    (u : Text.Utf8.Unencodable) : Prop where
  before : ∀ piece ∈ taken, Encodable piece
  here : ∃ piece rest, pieces = taken ++ piece :: rest ∧ encode piece = .error u

/-- A sink that encodes takes the pieces up to the first without octets. -/
theorem takeFrom_encoded (count : Nat) (pieces : List String) :
    (({ isEncoded := true } : Sink).takeFrom count pieces = (pieces, none) ∧
      ∀ piece ∈ pieces, Encodable piece) ∨
    ∃ taken u, ({ isEncoded := true } : Sink).takeFrom count pieces =
      (taken, some (.unencodable u)) ∧ Unencodable pieces taken u := by
  induction pieces generalizing count with
  | nil => exact .inl ⟨rfl, nofun⟩
  | cons piece pieces ih =>
      rw [Sink.takeFrom]
      cases hPiece : encode piece with
      | error u =>
          have hRefusal : ({ isEncoded := true } : Sink).refusal? count piece =
              some (.unencodable u) := by
            simp [Sink.refusal?, hPiece]
          rw [hRefusal]
          exact .inr ⟨[], u, rfl, nofun, piece, pieces, rfl, hPiece⟩
      | ok octets =>
          have hRefusal : ({ isEncoded := true } : Sink).refusal? count piece = none := by
            simp [Sink.refusal?, hPiece]
          rw [hRefusal]
          rcases ih (count + 1) with
            ⟨hTaken, hRest⟩ | ⟨taken, u, hTaken, hBefore, next, rest, rfl, hNext⟩
          · rw [hTaken]
            exact .inl ⟨rfl, List.forall_mem_cons.2 ⟨⟨octets, hPiece⟩, hRest⟩⟩
          · rw [hTaken]
            exact .inr ⟨piece :: taken, u, rfl,
              List.forall_mem_cons.2 ⟨⟨octets, hPiece⟩, hBefore⟩, next, rest, rfl, hNext⟩

/-! ## Files that cannot be opened -/

/-- A file that can be taken away but not be opened is one that is protected, in a
directory that is not. -/
theorem exists_readOnly {tree tree' : Files.Tree} {p : Files.Path} {e : Files.Error}
    (hWrite : tree.write p [] = .error e) (hUnlink : tree.unlink p = .ok tree') :
    ∃ l octets, tree.locate p = .ok l ∧ tree.node? l = some (.readOnly octets) ∧
      tree.isLocked l = false ∧ e = .refused .notAllowed p.text ∧ tree' = tree.remove l := by
  obtain ⟨l, n, hLocate, hNode, hFile, hLocked, rfl⟩ := Files.Tree.unlink_eq_ok_iff.1 hUnlink
  unfold Files.Tree.write at hWrite
  simp only [hLocate, hNode] at hWrite
  cases n with
  | directory => exact absurd rfl hFile
  | file octets => cases hWrite
  | readOnly octets =>
      cases hWrite
      exact ⟨l, octets, hLocate, hNode, hLocked, rfl, rfl⟩

/-- What a file that could not be opened leaves: the tree as it was, or the tree without a
file that is protected. -/
inductive Refused (tree : Files.Tree) (p : Files.Path) (w : Writing) : Prop
  | stays (e : Files.Error) (hError : tree.write p [] = .error e ∨ tree.unlink p = .error e)
      (hOutcome : w.outcome = .error (.file e)) (hTree : w.tree = tree)
  | removed (l : Files.Location) (octets : List UInt8) (hPlace : tree.locate p = .ok l)
      (hNode : tree.node? l = some (.readOnly octets)) (hLocked : tree.isLocked l = false)
      (hOutcome : w.outcome = .error (.file (.refused .notAllowed p.text)))
      (hTree : w.tree = tree.remove l)

/-- A file that cannot be opened is told of. -/
theorem Refused.exists_error {tree : Files.Tree} {p : Files.Path} {w : Writing}
    (h : Refused tree p w) : ∃ e, w.outcome = .error (.file e) := by
  cases h with
  | stays e hError hOutcome hTree => exact ⟨e, hOutcome⟩
  | removed l octets hPlace hNode hLocked hOutcome hTree => exact ⟨_, hOutcome⟩

theorem writeAt_of_refused (t : Table) (target : Json.Value) (style : Style)
    {tree : Files.Tree} {p : Files.Path} {e : Files.Error}
    (hWrite : tree.write p [] = .error e) : Refused tree p (writeAt t target style tree p) := by
  simp only [writeAt, hWrite, afterFailedOpening]
  cases hUnlink : tree.unlink p with
  | ok tree' =>
      obtain ⟨l, octets, hPlace, hNode, hLocked, rfl, rfl⟩ := exists_readOnly hWrite hUnlink
      exact .removed l octets hPlace hNode hLocked rfl rfl
  | error e' =>
      split
      · rename_i hSame
        cases hSame
      · exact .stays e (.inl hWrite) rfl rfl
      · rename_i hSame
        cases hSame
        exact .stays e' (.inr hUnlink) rfl rfl

/-! ## Files that can be opened -/

/-- Only a mistake in the table gets past the guard, if the sink does not fail. -/
theorem outcome_generateGuarded_eq_error {style : Style} {t : Table} {package : String}
    {i : Interruption}
    (hOutcome : (generateGuarded style t (.text package) {}).outcome = .error i) :
    ∃ o, o.isMistake = true ∧ i = .offence o := by
  have hSink : ({} : Sink).TakesAll style t package := takesAll_of_unlimited rfl rfl
  have hEnd := outcome_generate hSink
  unfold generateGuarded at hOutcome
  cases hGenerate : (generate style t (.text package) {}).outcome with
  | ok r => simp [hGenerate] at hOutcome
  | error j =>
      rw [hGenerate] at hEnd
      obtain ⟨o, rfl⟩ : ∃ o, j = .offence o := by
        split at hEnd
        · cases hEnd
        · cases hEnd
        · cases hEnd
          exact ⟨_, rfl⟩
      by_cases hMistake : o.isMistake = true
      · have hEscapes : (Interruption.offence o).escapes = true := hMistake
        obtain rfl : .offence o = i := by simpa [hGenerate, hEscapes] using hOutcome
        exact ⟨o, hMistake, rfl⟩
      · have hKept : ¬ (Interruption.offence o).escapes = true := hMistake
        simp [hGenerate, hKept] at hOutcome

/-- A class that is complete was not written to a file yet. -/
theorem path_of_generateGuarded {style : Style} {t : Table} {package : String} {s : Summary}
    (hOutcome : (generateGuarded style t (.text package) {}).outcome = .ok (.complete s)) :
    s.path = none := by
  unfold generateGuarded at hOutcome
  cases hGenerate : (generate style t (.text package) {}).outcome with
  | ok r =>
      obtain rfl : r = .complete s := by simpa [hGenerate] using hOutcome
      obtain ⟨-, -, rfl⟩ := complete_of_outcome hGenerate
      rfl
  | error i => cases hEscapes : i.escapes <;> simp [hGenerate, hEscapes] at hOutcome

theorem fields_of_path {s : Summary} (hPath : s.path = none) (file : String) :
    ({ s with path := some file } : Summary).fields =
      s.fields ++ [("output_file", .text file)] := by
  simp [Summary.fields, hPath]

/-- What came of a file that was opened and is taken back: it is gone, or it stays since its
directory is protected. -/
inductive TakenBack (tree : Files.Tree) (l : Files.Location) (p : Files.Path)
    (octets : List UInt8) (outcome : Except Error Result) (w : Writing) : Prop
  | gone (hLocked : tree.isLocked l = false) (hOutcome : w.outcome = outcome)
      (hFile : w.tree.isThere p = .ok false)
  | stuck (hLocked : tree.isLocked l = true)
      (hOutcome : w.outcome = .error (.file (.refused .notAllowed p.text)))
      (hFile : w.tree.read p = .ok octets)

theorem takenBack_settled {tree : Files.Tree} {p : Files.Path} {l : Files.Location}
    (hLocate : tree.locate p = .ok l) (hFree : tree.node? l ≠ some .directory)
    (octets : List UInt8) (outcome : Except Error Result) (log : List Log.Record) :
    TakenBack tree l p octets outcome (takenBack (tree.put l (.file octets)) p outcome log) ∧
      tree.GrowsApart l (takenBack (tree.put l (.file octets)) p outcome log).tree := by
  have hPlace := Files.Tree.locate_put hFree hLocate (.file octets)
  have hNode := Files.Tree.node?_put_self tree (Files.Tree.ne_nil_of_node? hFree) (.file octets)
  have hApart := ((Files.Tree.Grows.refl tree).apart l).put (.file octets)
  have hRead := Files.Tree.read_put hFree hLocate octets
  have hSame : (tree.put l (.file octets)).isLocked l = tree.isLocked l := rfl
  generalize tree.put l (.file octets) = filled at *
  cases hLocked : tree.isLocked l with
  | false =>
      have hUnlink : filled.unlink p = .ok (filled.remove l) :=
        Files.Tree.unlink_eq_ok_iff.2
          ⟨l, .file octets, hPlace, hNode, nofun, hSame.trans hLocked, rfl⟩
      have hFile : filled.node? l ≠ some .directory := by simp [hNode]
      simp only [takenBack, hUnlink]
      exact ⟨.gone hLocked rfl (Files.Tree.isThere_remove hFile hPlace), hApart.remove⟩
  | true =>
      have hUnlink : filled.unlink p = .error (.refused .notAllowed p.text) := by
        simp only [Files.Tree.unlink, hPlace, hNode, hSame, hLocked, if_true]
      simp only [takenBack, hUnlink]
      exact ⟨.stuck hLocked rfl hRead, hApart⟩

/-- How a generation into a file ends without a class, beside the class as a text, and the
octets that the file holds then.  `pieces` is what the generation writes. -/
inductive Unfinished (source : Except Error Source) (pieces : List String) :
    Except Error Result → List UInt8 → Prop
  /-- The class as a text is not complete either. -/
  | broken (r : Result) (octets : List UInt8) (hBroken : r.isComplete = false)
      (hSource : source = .ok ⟨String.join pieces, r⟩)
      (hOctets : encode (String.join pieces) = .ok octets) :
      Unfinished source pieces (.ok r) octets
  /-- The table holds a mistake. -/
  | mistaken (o : Offence) (octets : List UInt8) (hMistake : o.isMistake = true)
      (hSource : source = .error (.interrupted (.offence o)))
      (hOctets : encode (String.join pieces) = .ok octets) :
      Unfinished source pieces (.error (.interrupted (.offence o))) octets
  /-- A piece has no octets, whatever becomes of the class as a text. -/
  | unencodable (taken : List String) (u : Text.Utf8.Unencodable) (octets : List UInt8)
      (hPieces : Unencodable pieces taken u) (hOctets : encode (String.join taken) = .ok octets) :
      Unfinished source pieces (.ok (.failed (.unencodable u))) octets

theorem Unfinished.not_complete {source : Except Error Source} {pieces : List String}
    {outcome : Except Error Result} {octets : List UInt8}
    (h : Unfinished source pieces outcome octets) (r : Result) (hOutcome : outcome = .ok r) :
    ¬ r.isComplete = true := by
  cases h with
  | broken r' octets hBroken hSource hOctets =>
      obtain rfl := Except.ok.inj hOutcome
      simp [hBroken]
  | mistaken o octets hMistake hSource hOctets => cases hOutcome
  | unencodable taken u octets hPieces hOctets =>
      obtain rfl := Except.ok.inj hOutcome
      nofun

/-- What came of a class in a file, beside the class as a text. -/
inductive Settled (tree : Files.Tree) (l : Files.Location) (p : Files.Path)
    (source : Except Error Source) (pieces : List String) (w : Writing) : Prop
  /-- The class is complete, and the file holds it.  Its path is the last finding. -/
  | whole (s : Summary) (octets : List UInt8)
      (hSource : source = .ok ⟨String.join pieces, .complete s⟩)
      (hOctets : encode (String.join pieces) = .ok octets)
      (hOutcome : w.outcome = .ok (.complete { s with path := some p.text }))
      (hFields : ({ s with path := some p.text } : Summary).fields =
        s.fields ++ [("output_file", .text p.text)])
      (hFile : w.tree.read p = .ok octets)
  /-- The class is not complete, and the file is taken back. -/
  | unfinished (outcome : Except Error Result) (octets : List UInt8)
      (hUnfinished : Unfinished source pieces outcome octets)
      (hBack : TakenBack tree l p octets outcome w)

theorem eq_complete_of_isComplete {r : Result} (hComplete : r.isComplete = true) :
    ∃ s, r = .complete s := by
  cases r with
  | complete s => exact ⟨s, rfl⟩
  | aborted s o => cases hComplete
  | failed i => cases hComplete

/-- A generation whose sink takes all its pieces is the one into a sink that never fails. -/
theorem generateGuarded_of_takesAll {style : Style} {t : Table} {package : String} {sink : Sink}
    (hSink : sink.TakesAll style t package) :
    (generateGuarded style t (.text package) sink).written =
        String.join (run style t (some package) package).pieces ∧
      (generateGuarded style t (.text package) sink).outcome =
        (generateGuarded style t (.text package) {}).outcome := by
  have hWritten := written_generate hSink
  have hUnlimited : ({} : Sink).TakesAll style t package := takesAll_of_unlimited rfl rfl
  have hOutcome := (outcome_generate hSink).trans (outcome_generate hUnlimited).symm
  unfold generateGuarded
  cases hEnd : (generate style t (.text package) {}).outcome with
  | ok r =>
      rw [hEnd] at hOutcome
      simp only [hOutcome, hEnd, hWritten, and_self]
  | error i =>
      rw [hEnd] at hOutcome
      cases hEscapes : i.escapes <;> simp [hEscapes, hWritten, hOutcome, hEnd]

/-- A sink that encodes is handed what any sink is, or fails at the first piece without
octets. -/
theorem generateGuarded_encoded (style : Style) (t : Table) (package : String) :
    ((generateGuarded style t (.text package) { isEncoded := true }).written =
        String.join (run style t (some package) package).pieces ∧
      (generateGuarded style t (.text package) { isEncoded := true }).outcome =
        (generateGuarded style t (.text package) {}).outcome ∧
      Encodable (String.join (run style t (some package) package).pieces)) ∨
    ∃ taken u, Unencodable (run style t (some package) package).pieces taken u ∧
      (generateGuarded style t (.text package) { isEncoded := true }).written =
        String.join taken ∧
      (generateGuarded style t (.text package) { isEncoded := true }).outcome =
        .ok (.failed (.unencodable u)) := by
  rcases takeFrom_encoded 0 (run style t (some package) package).pieces with
    ⟨hTaken, hPieces⟩ | ⟨taken, u, hTaken, hPieces⟩
  · have hAll : ({ isEncoded := true } : Sink).TakesAll style t package :=
      congrArg Prod.snd hTaken
    obtain ⟨hWritten, hOutcome⟩ := generateGuarded_of_takesAll hAll
    exact .inl ⟨hWritten, hOutcome, encodable_join hPieces⟩
  · refine .inr ⟨taken, u, hPieces, ?_⟩
    have hRefusal : (({ isEncoded := true } : Sink).takeFrom 0
        (run style t (some package) package).pieces).2 = some (.unencodable u) :=
      congrArg Prod.snd hTaken
    obtain ⟨hWritten, hOutcome⟩ := generate_of_refusal hRefusal
    rw [hTaken] at hWritten
    simp only [generateGuarded, hOutcome, Interruption.escapes, Bool.false_eq_true, if_false,
      hWritten, and_self]

/-- A class whose file can be opened is in the file whole, or the file is taken back. -/
theorem writeAt_settled (t : Table) (asked : Json.Value) (s : Settings) {package : String}
    (hTarget : targetOf asked s t = .text package) {tree : Files.Tree} {p : Files.Path}
    {l : Files.Location} (hLocate : tree.locate p = .ok l) (hPlace : tree.Writable l) :
    Settled tree l p (toSource t asked s).1 (run (styleOf s) t (some package) package).pieces
        (writeAt t (.text package) (styleOf s) tree p) ∧
      tree.GrowsApart l (writeAt t (.text package) (styleOf s) tree p).tree := by
  have hFree := hPlace.ne_directory
  have hOpen : tree.write p [] = .ok (tree.put l (.file [])) :=
    Files.Tree.write_eq_ok_iff.2 ⟨l, hLocate, hPlace, rfl⟩
  have hFill := Files.Tree.write_put hFree hLocate []
  have hAll : ({} : Sink).TakesAll (styleOf s) t package := takesAll_of_unlimited rfl rfl
  have hUnlimited := (generateGuarded_of_takesAll hAll).1
  unfold writeAt toSource
  rw [hOpen, hTarget]
  simp only [hFill]
  rcases generateGuarded_encoded (styleOf s) t package with
    ⟨hWritten, hOutcome, octets, hOctets⟩ | ⟨taken, u, hPieces, hWritten, hOutcome⟩
  · simp only [hWritten, hOutcome, hOctets, Except.toOption, Option.getD_some]
    cases hEnd : (generateGuarded (styleOf s) t (.text package) {}).outcome with
    | error i =>
        obtain ⟨o, hMistake, rfl⟩ := outcome_generateGuarded_eq_error hEnd
        obtain ⟨hBack, hApart⟩ := takenBack_settled hLocate hFree octets
          (.error (.interrupted (.offence o)))
          (generateGuarded (styleOf s) t (.text package) { isEncoded := true }).log
        exact ⟨.unfinished _ octets (.mistaken o octets hMistake rfl hOctets) hBack, hApart⟩
    | ok r =>
        simp only [hUnlimited]
        cases hComplete : r.isComplete with
        | false =>
            obtain ⟨hBack, hApart⟩ := takenBack_settled hLocate hFree octets (.ok r)
              (generateGuarded (styleOf s) t (.text package) { isEncoded := true }).log
            exact ⟨.unfinished _ octets (.broken r octets hComplete rfl hOctets) hBack, hApart⟩
        | true =>
            obtain ⟨summary, rfl⟩ := eq_complete_of_isComplete hComplete
            have hFields := fields_of_path (path_of_generateGuarded hEnd) p.text
            exact ⟨.whole summary octets rfl hOctets rfl hFields
                (Files.Tree.read_put hFree hLocate octets),
              ((Files.Tree.Grows.refl tree).apart l).put _⟩
  · obtain ⟨octets, hOctets⟩ := encodable_join hPieces.before
    obtain ⟨hBack, hApart⟩ := takenBack_settled hLocate hFree octets
      (.ok (.failed (.unencodable u)))
      (generateGuarded (styleOf s) t (.text package) { isEncoded := true }).log
    simp only [hWritten, hOutcome, hOctets, Except.toOption, Option.getD_some]
    exact ⟨.unfinished _ octets (.unencodable taken u octets hPieces hOctets) hBack, hApart⟩

/-! ## Classes in files -/

/-- Why nothing is generated, and no file is asked for. -/
inductive Prevented (t : Table) (root : Files.Path) (asked : Json.Value) (given : Given)
    (tree : Files.Tree) : Error → Prop
  /-- The settings are refused. -/
  | settings (e : Error) (hGiven : given.resolve = .error e) :
      Prevented t root asked given tree e
  /-- The target is no package. -/
  | target (s : Settings) (hGiven : given.resolve = .ok s)
      (hTarget : (targetOf asked s t).text? = none) :
      Prevented t root asked given tree
        (.misuse (.noOperation (targetOf asked s t).kindName "split"))
  /-- The directories of the file cannot be made. -/
  | directories (s : Settings) (package : String) (hGiven : given.resolve = .ok s)
      (hTarget : targetOf asked s t = .text package) (e : Files.Error)
      (hMade : (tree.makeDirectories (path root package).parent).2 = some e) :
      Prevented t root asked given tree (.file e)

/-- The file of a class is asked for: the settings name the package, and all directories
are there. -/
structure Prepared (t : Table) (root : Files.Path) (asked : Json.Value) (given : Given)
    (tree : Files.Tree) (package : String) (s : Settings) (grown : Files.Tree) : Prop where
  given : given.resolve = .ok s
  target : targetOf asked s t = .text package
  made : tree.makeDirectories (path root package).parent = (grown, none)

section

variable {t : Table} {root : Files.Path} {asked : Json.Value} {s : Settings}
  {tree grown : Files.Tree}

theorem toFile_of_not_text (hText : (targetOf asked s t).text? = none) :
    toFile t root asked s tree =
      { tree
        outcome := .error (.misuse (.noOperation (targetOf asked s t).kindName "split"))
        log := [] } := by
  simp only [toFile, hText]

theorem toFile_of_not_made {package : String} (hTarget : targetOf asked s t = .text package)
    {e : Files.Error}
    (hMade : tree.makeDirectories (path root package).parent = (grown, some e)) :
    toFile t root asked s tree =
      { tree := grown, outcome := .error (.file e), log := [] } := by
  simp only [toFile, hTarget, Json.Value.text?, hMade]

theorem toFile_of_made {package : String} (hTarget : targetOf asked s t = .text package)
    (hMade : tree.makeDirectories (path root package).parent = (grown, none)) :
    toFile t root asked s tree =
      writeAt t (.text package) (styleOf s) grown (path root package) := by
  simp only [toFile, hTarget, Json.Value.text?, hMade]

end

/-- A class in a file is there whole or not at all.  Either the file is not asked for, and
then directories may have come and nothing else.  Or the file cannot be opened: the tree
stays, or loses the file if it is protected.  Else the generation ends as that of the
class as a text does, unless a piece has no octets; and all that differs is the file of the
class. -/
theorem toFile_all_or_nothing (t : Table) (root : Files.Path) (asked : Json.Value)
    (given : Given) (tree : Files.Tree) :
    (∃ e, Prevented t root asked given tree e ∧
      (toFileGiven t root asked given tree).outcome = .error e ∧
      tree.Grows (toFileGiven t root asked given tree).tree) ∨
    ∃ package s grown, Prepared t root asked given tree package s grown ∧ tree.Grows grown ∧
      (Refused grown (path root package) (toFileGiven t root asked given tree) ∨
        ∃ l, grown.locate (path root package) = .ok l ∧ grown.Writable l ∧
          Settled grown l (path root package) (toSourceGiven t asked given).1
            (run (styleOf s) t (some package) package).pieces
            (toFileGiven t root asked given tree) ∧
          tree.GrowsApart l (toFileGiven t root asked given tree).tree) := by
  unfold toFileGiven toSourceGiven
  cases hGiven : given.resolve with
  | error e => exact .inl ⟨e, .settings e hGiven, rfl, .refl tree⟩
  | ok s =>
      simp only
      cases hText : (targetOf asked s t).text? with
      | none =>
          refine .inl ⟨_, .target s hGiven hText, ?_⟩
          rw [toFile_of_not_text hText]
          exact ⟨rfl, .refl tree⟩
      | some package =>
          have hTarget := Json.Value.eq_text_of_text? hText
          have hGrows := Files.Tree.makeDirectories_grows tree (path root package).parent
          rcases hMade : tree.makeDirectories (path root package).parent with ⟨grown, _ | e⟩
          · rw [hMade] at hGrows
            rw [toFile_of_made hTarget hMade]
            refine .inr ⟨package, s, grown, ⟨hGiven, hTarget, hMade⟩, hGrows, ?_⟩
            cases hOpen : grown.write (path root package) [] with
            | error e => exact .inl (writeAt_of_refused t (.text package) (styleOf s) hOpen)
            | ok opened =>
                obtain ⟨l, hLocate, hPlace, -⟩ := Files.Tree.write_eq_ok_iff.1 hOpen
                obtain ⟨hSettled, hApart⟩ := writeAt_settled t asked s hTarget hLocate hPlace
                exact .inr ⟨l, hLocate, hPlace, hSettled, hGrows.trans_apart hApart⟩
          · have hRefused : (tree.makeDirectories (path root package).parent).2 = some e := by
              rw [hMade]
            rw [hMade] at hGrows
            rw [toFile_of_not_made hTarget hMade]
            exact .inl ⟨_, .directories s package hGiven hTarget e hRefused, rfl, hGrows⟩

/-- A table of the package `app`, whose one entry is named by half of a surrogate pair. -/
def loneHalfTable : Table :=
  { package := "app", number := 0x7F
    groups := [{ kind := .id, number := 1, entries := [⟨"\uE000\uE001", 0, []⟩] }] }

/-- A tree with the file of the class, which is protected. -/
def protectedTree : Files.Tree :=
  Files.Tree.empty.put ["home", "app"] .directory |>.put ["home", "app", "R.java"] (.readOnly [])

/-- The class is complete as a text, and fails in a file.  And a protected file is gone,
although nothing is generated. -/
theorem not_all_or_nothing_loneHalfTable :
    (toSourceGiven loneHalfTable .null (.value .null)).1.map (·.result.isComplete) = .ok true ∧
    (toFileGiven loneHalfTable (.ofText "out") .null (.value .null) .empty).outcome.map
        Result.message? =
      .ok (some ("Code generation failed: 'utf-8' codec can't encode character " ++
        "'\\ud800' in position 32: surrogates not allowed")) ∧
    (toFileGiven loneHalfTable (.ofText "") .null (.value .null) protectedTree).outcome.map
        Result.message? =
      .error (.file (.refused .notAllowed "app/R.java")) ∧
    protectedTree.isFile (.ofText "app/R.java") = .ok true ∧
    (toFileGiven loneHalfTable (.ofText "") .null (.value .null) protectedTree).tree.isThere
      (.ofText "app/R.java") = .ok false := by
  decide +kernel

end ResourceSymbols.RClass
