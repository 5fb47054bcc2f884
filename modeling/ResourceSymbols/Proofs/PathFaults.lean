import ResourceSymbols.Proofs.ListedPackages
import ResourceSymbols.Proofs.PackagePath
import ResourceSymbols.Proofs.Writing

/-!
# Paths that the system sees

A path that holds a null character, or half of a surrogate pair that stands for no octet,
is refused before the system sees it.  Any other path is followed or refused by the system,
and so is all that is done below it: directories and files are made, and classes are written.

Texts of paths are split and joined at slashes and points.  A text without faults may be
split at any of them and joined again, for no mark of a half stands before one.

## Main results

* `pathText_append`, `PathText.cut`, `pathText_splitText` — texts without faults, joined and
  split.
* `pathFault?_of_pathText` — a text without faults is a path.
* `locate_ne_noPath`, `makeDirectories_ne_noPath`, `check_ne_noPath` — what comes of a path
  without faults.
* `meets_toFile` — the class of a well-formed table in a file.
-/

namespace ResourceSymbols

open Outcome (Meets)

/-! ## Texts of paths -/

namespace Files

open Text (CodePoint codePoints)

/-- Whether the code point can stand in a path. -/
def fitsPath : CodePoint → Bool
  | .char c => c ≠ '\x00'
  | .half n => (Text.Utf8.escapedOctet? n).isSome

/-- All code points of the text can stand in a path. -/
def PathText (cs : List Char) : Prop := ∀ p ∈ codePoints cs, fitsPath p = true

/-- The text holds a null, or half of a pair that stands for no octet. -/
def NoPath (s : String) : Prop := ∃ p ∈ codePoints s.toList, fitsPath p = false

/-- The texts of paths are split at the character: it can follow no mark. -/
structure Splits (d : Char) : Prop where
  plain : d ≠ Text.mark
  apart : fitsPath (.ofMarked d) = false

theorem splits_slash : Splits '/' := ⟨by decide, by decide⟩

theorem splits_point : Splits '.' := ⟨by decide, by decide⟩

theorem splits_null : Splits '\x00' := ⟨by decide, by decide⟩

theorem pathText_of_not_noPath {s : String} (h : ¬ NoPath s) : PathText s.toList := by
  intro p hp
  by_contra hNot
  exact h ⟨p, hp, by simpa using hNot⟩

/-- No mark ends a text without faults, so what follows it is spelled apart. -/
theorem codePoints_append_of_pathText {cs : List Char} (h : PathText cs) (rest : List Char) :
    codePoints (cs ++ rest) = codePoints cs ++ codePoints rest := by
  unfold PathText at h
  fun_induction codePoints cs with
  | case1 => rfl
  | case2 => exact absurd (h _ List.mem_cons_self) (by decide)
  | case3 c cs ih =>
      rw [List.forall_mem_cons] at h
      exact congrArg _ (ih h.2)
  | case4 c cs hNotLast hNotMark ih =>
      rw [List.forall_mem_cons] at h
      have hPlain : c ≠ Text.mark := by
        rintro rfl
        cases cs with
        | nil => exact hNotLast rfl rfl
        | cons e es => exact hNotMark e es rfl rfl
      rw [List.cons_append, Text.codePoints_cons hPlain, ih h.2, List.cons_append]

theorem pathText_append {cs ds : List Char} (hc : PathText cs) (hd : PathText ds) :
    PathText (cs ++ ds) := by
  intro p hp
  rw [codePoints_append_of_pathText hc, List.mem_append] at hp
  exact hp.elim (hc p) (hd p)

/-- What stands on both sides of a place to split at has no faults either. -/
theorem PathText.cut {d : Char} (hd : Splits d) {cs rest : List Char}
    (h : PathText (cs ++ d :: rest)) : PathText cs ∧ fitsPath (.char d) = true ∧ PathText rest := by
  unfold PathText at h ⊢
  fun_induction codePoints cs with
  | case1 =>
      rw [List.nil_append, Text.codePoints_cons hd.plain, List.forall_mem_cons] at h
      exact ⟨List.forall_mem_nil _, h⟩
  | case2 =>
      have hFirst := h (.ofMarked d) List.mem_cons_self
      rw [hd.apart] at hFirst
      cases hFirst
  | case3 c cs ih =>
      have hAll : ∀ p ∈ CodePoint.ofMarked c :: codePoints (cs ++ d :: rest), fitsPath p := h
      rw [List.forall_mem_cons] at hAll
      obtain ⟨hFront, hRest⟩ := ih hAll.2
      exact ⟨List.forall_mem_cons.2 ⟨hAll.1, hFront⟩, hRest⟩
  | case4 c cs hNotLast hNotMark ih =>
      have hPlain : c ≠ Text.mark := by
        rintro rfl
        cases cs with
        | nil => exact hNotLast rfl rfl
        | cons e es => exact hNotMark e es rfl rfl
      rw [List.cons_append, Text.codePoints_cons hPlain, List.forall_mem_cons] at h
      obtain ⟨hFront, hRest⟩ := ih h.2
      exact ⟨List.forall_mem_cons.2 ⟨h.1, hFront⟩, hRest⟩

theorem pathText_of_intercalate {d : Char} (hd : Splits d) {parts : List (List Char)}
    (h : PathText ([d].intercalate parts)) : ∀ part ∈ parts, PathText part := by
  induction parts with
  | nil => exact List.forall_mem_nil _
  | cons part parts ih =>
      cases parts with
      | nil =>
          rw [List.intercalate_singleton] at h
          exact List.forall_mem_singleton.2 h
      | cons next parts =>
          rw [List.intercalate_cons_cons, List.append_assoc, List.singleton_append] at h
          obtain ⟨hFront, -, hRest⟩ := h.cut hd
          exact List.forall_mem_cons.2 ⟨hFront, ih hRest⟩

theorem pathText_splitText {d : Char} (hd : Splits d) {s : String} (h : PathText s.toList) :
    ∀ part ∈ Text.splitText d s, PathText part.toList := by
  intro part hPart
  obtain ⟨piece, hPiece, rfl⟩ := List.mem_map.1 hPart
  rw [← Text.intercalate_pieces d s.toList] at h
  rw [String.toList_ofList]
  exact pathText_of_intercalate hd h piece hPiece

theorem pathText_intercalate {s : String} (hs : PathText s.toList) {parts : List String}
    (hParts : ∀ part ∈ parts, PathText part.toList) : PathText (s.intercalate parts).toList := by
  induction parts with
  | nil => exact List.forall_mem_nil _
  | cons part parts ih =>
      rw [List.forall_mem_cons] at hParts
      cases parts with
      | nil =>
          rw [String.intercalate_singleton]
          exact hParts.1
      | cons next parts =>
          rw [String.intercalate_cons_cons, String.toList_append, String.toList_append]
          exact pathText_append (pathText_append hParts.1 hs) (ih hParts.2)

/-- A text without faults is a path. -/
theorem pathFault?_of_pathText {s : String} (h : PathText s.toList) : Tree.pathFault? s = none := by
  have hEncoded : ∀ (ps : List CodePoint) position, (∀ p ∈ ps, fitsPath p = true) →
      ∃ octets, Text.Utf8.encodeFrom Text.Utf8.escapedOctet? position ps = .ok octets := by
    intro ps
    induction ps with
    | nil => exact fun _ _ => ⟨[], rfl⟩
    | cons p ps ih =>
        intro position hAll
        rw [List.forall_mem_cons] at hAll
        obtain ⟨octets, hRest⟩ := ih (position + 1) hAll.2
        cases p with
        | char c => exact ⟨_, by rw [Text.Utf8.encodeFrom, hRest]; rfl⟩
        | half n =>
            obtain ⟨octet, hOctet⟩ := Option.isSome_iff_exists.1 hAll.1
            exact ⟨_, by simp only [Text.Utf8.encodeFrom, hOctet, hRest]; rfl⟩
  have hNull : '\x00' ∉ s.toList := by
    intro hMem
    obtain ⟨front, rest, hText⟩ := List.append_of_mem hMem
    rw [hText] at h
    exact absurd (h.cut splits_null).2.1 (by decide)
  obtain ⟨octets, hOctets⟩ := hEncoded (codePoints s.toList) 0 h
  have hPath : Text.Utf8.encodePath s = .ok octets := hOctets
  rw [Tree.pathFault?, hPath]
  exact if_neg (by simpa using hNull)

/-! ## Paths -/

namespace Path

/-- No name of the path has a fault, and neither has its root. -/
structure Proper (p : Path) : Prop where
  root : PathText p.root.toList
  names : ∀ name ∈ p.names, PathText name.toList

theorem proper_ofText {s : String} (hText : PathText s.toList) : (ofText s).Proper where
  root := by
    unfold ofText
    dsimp only
    split_ifs <;> unfold PathText <;> decide
  names := fun name hMem => pathText_splitText splits_slash hText name (List.mem_filter.1 hMem).1

theorem Proper.join {p q : Path} (hp : p.Proper) (hq : q.Proper) : (p.join q).Proper := by
  unfold Path.join
  split
  · refine ⟨hp.root, fun name hMem => ?_⟩
    exact (List.mem_append.1 hMem).elim (hp.names name) (hq.names name)
  · exact hq

theorem Proper.parent {p : Path} (h : p.Proper) : p.parent.Proper :=
  ⟨h.root, fun name hMem => h.names name (List.dropLast_subset _ hMem)⟩

theorem Proper.pathText {p : Path} (h : p.Proper) : PathText p.text.toList := by
  unfold Path.text
  split
  · unfold PathText
    decide
  · rw [String.toList_append]
    exact pathText_append h.root (pathText_intercalate (by unfold PathText; decide) h.names)

end Path

namespace Tree

variable {t : Tree} {p : Path}

/-- A path without faults is followed, or it is the system that refuses it. -/
theorem locate_ne_noPath (h : p.Proper) (fault : PathFault) :
    t.locate p ≠ .error (.noPath fault) := by
  unfold locate
  rw [pathFault?_of_pathText h.pathText]
  dsimp only
  split
  · simp
  · cases t.walk (if p.root.isEmpty then t.home else []) p.names <;> simp [Except.mapError]

theorem write_ne_noPath (h : p.Proper) (octets : List UInt8) (fault : PathFault) :
    t.write p octets ≠ .error (.noPath fault) := by
  have hLocate := locate_ne_noPath h fault (t := t)
  unfold write
  cases hFound : t.locate p with
  | error e => simpa [hFound] using hLocate
  | ok l =>
      dsimp only
      split
      · simp
      · simp
      · simp
      · split <;> simp

theorem unlink_ne_noPath (h : p.Proper) (fault : PathFault) :
    t.unlink p ≠ .error (.noPath fault) := by
  have hLocate := locate_ne_noPath h fault (t := t)
  unfold unlink
  cases hFound : t.locate p with
  | error e => simpa [hFound] using hLocate
  | ok l =>
      dsimp only
      split
      · simp
      · split_ifs <;> simp

theorem makeDirectory_ne_noPath (h : p.Proper) (fault : PathFault) :
    t.makeDirectory p ≠ .error (.noPath fault) := by
  have hLocate := locate_ne_noPath h fault (t := t)
  unfold makeDirectory
  cases hFound : t.locate p with
  | error e => simpa [hFound] using hLocate
  | ok l =>
      dsimp only
      split
      · simp
      · split <;> simp

/-- An error that is not forgiven is the error that there was. -/
theorem forgiven_ne_noPath (h : p.Proper) {e : Error} (hMade : t.makeDirectory p = .error e)
    (fault : PathFault) : t.forgiven p e ≠ some (.noPath fault) := by
  unfold forgiven
  cases e with
  | noPath other => exact absurd hMade (makeDirectory_ne_noPath h other)
  | refused c path =>
      dsimp only
      split <;> simp

theorem makeDirectoriesAt_ne_noPath {root : String} {names : List String}
    (h : ({ root, names := names.reverse } : Path).Proper) (fault : PathFault) :
    (t.makeDirectoriesAt root names).2 ≠ some (.noPath fault) := by
  induction names with
  | nil =>
      unfold makeDirectoriesAt
      simp only
      split
      · simp
      · rename_i hMade
        exact forgiven_ne_noPath h hMade fault
  | cons name above ih =>
      have hAbove : ({ root, names := above.reverse } : Path).Proper := by
        refine ⟨h.root, fun n hn => h.names n ?_⟩
        rw [List.reverse_cons]
        exact List.mem_append_left _ hn
      unfold makeDirectoriesAt
      simp only
      split
      · simp
      · -- A directory above is missing, and is made first.
        split
        · rename_i hFirst
          have hError := ih hAbove
          rwa [hFirst] at hError
        · split
          · simp
          · simp
          · rename_i hMade
            exact forgiven_ne_noPath h hMade fault
      · rename_i hMade
        exact forgiven_ne_noPath h hMade fault

theorem makeDirectories_ne_noPath (h : p.Proper) (fault : PathFault) :
    (t.makeDirectories p).2 ≠ some (.noPath fault) :=
  makeDirectoriesAt_ne_noPath (by rwa [List.reverse_reverse]) fault

/-- The system answers what is at a path, or refuses to; where a text is no path, nothing
is. -/
theorem check_ne_noPath {test : Node → Bool} (fault : PathFault) :
    t.check test p ≠ .error (.noPath fault) := by
  unfold check
  cases t.stat p with
  | ok n => simp
  | error e =>
      cases e with
      | noPath other => simp
      | refused c path => cases c <;> simp

end Tree

end Files

namespace RClass

open Resource (Table)
open Files (Path Tree PathText NoPath)

section

variable {t : Table} {root package : String} {asked : Json.Value} {s : Settings}

/-- The path of a class has a fault only if the source root or the package has one. -/
theorem proper_path (hRoot : ¬ NoPath root) (hPackage : ¬ NoPath package) :
    (path (.ofText root) package).Proper := by
  have hJoin : ∀ (segments : List String) (base : Path), base.Proper →
      (∀ s ∈ segments, PathText s.toList) →
      (segments.foldl (fun q s => q.join (.ofText s)) base).Proper := by
    intro segments
    induction segments with
    | nil => exact fun base hBase _ => hBase
    | cons s segments ih =>
        intro base hBase hAll
        rw [List.forall_mem_cons] at hAll
        exact ih _ (hBase.join (Path.proper_ofText hAll.1)) hAll.2
  have hSegments :=
    Files.pathText_splitText Files.splits_point (Files.pathText_of_not_noPath hPackage)
  have hBase := Path.proper_ofText (Files.pathText_of_not_noPath hRoot)
  refine (hJoin _ _ hBase hSegments).join ⟨List.forall_mem_nil _, ?_⟩
  exact List.forall_mem_singleton.2 (by unfold PathText; decide)

/-- The result of a class that is not complete names no file. -/
theorem writtenTo_of_broken {r : Result} (hBroken : r.isComplete = false) (file : String) :
    r.writtenTo file = r := by
  cases r with
  | complete s => cases hBroken
  | aborted s o => rfl
  | failed i => rfl

/-- What comes of the class in a file, where one can be opened: what comes of it as a text, or
a failure at a piece without octets. -/
inductive InFile (t : Table) (asked : Json.Value) (s : Settings) (package file : String) :
    Result → Prop
  | same (source : Source) (hSource : (toSource t asked s).1 = .ok source) :
      InFile t asked s package file (source.result.writtenTo file)
  | unencodable (taken : List String) (u : Text.Utf8.Unencodable)
      (hPieces : Unencodable (run (styleOf s) t (some package) package).pieces taken u) :
      InFile t asked s package file (.failed (.unencodable u))

/-- A class that is complete names its file. -/
theorem InFile.output_file {file : String} {r : Result} (h : InFile t asked s package file r)
    (hComplete : r.isComplete = true) : r.fields.get? "output_file" = some (.text file) := by
  cases h with
  | same source hSource =>
      cases hResult : source.result with
      | complete summary => rfl
      | aborted summary o =>
          rw [hResult] at hComplete
          cases hComplete
      | failed i =>
          rw [hResult] at hComplete
          cases hComplete
  | unencodable taken u hPieces => cases hComplete

/-- A class of a well-formed table is written, as far as its file can be opened.  The path
is refused by the system, unless it has a fault. -/
theorem meets_writeAt (hTable : t.WellFormed) (hTarget : targetOf asked s t = .text package)
    (tree : Tree) (p : Path) :
    Meets (InFile t asked s package p.text)
      (fun e => ∃ cause, e = .file cause ∧ ∀ fault, cause = .noPath fault → ¬ p.Proper)
      (writeAt t (.text package) (styleOf s) tree p).outcome := by
  obtain ⟨source, hSource, -⟩ := toSource_of_target hTable hTarget
  cases hOpen : tree.write p [] with
  | error e =>
      cases writeAt_of_refused t (.text package) (styleOf s) hOpen with
      | stays e' hError hOutcome hTree =>
          rw [hOutcome]
          refine .error ⟨e', rfl, ?_⟩
          rintro fault rfl hProper
          rcases hError with hError | hError
          · exact Tree.write_ne_noPath hProper [] fault hError
          · exact Tree.unlink_ne_noPath hProper fault hError
      | removed l octets hPlace hNode hLocked hOutcome hTree =>
          rw [hOutcome]
          exact .error ⟨_, rfl, nofun⟩
  | ok opened =>
      obtain ⟨l, hLocate, hPlace, -⟩ := Tree.write_eq_ok_iff.1 hOpen
      have hSettled := (writeAt_settled t asked s hTarget hLocate hPlace).1
      rw [hSource] at hSettled
      generalize writeAt t (.text package) (styleOf s) tree p = w at hSettled ⊢
      cases hSettled with
      | whole summary octets hSame hOctets hOutcome hFields hFile =>
          obtain rfl := Except.ok.inj hSame
          rw [hOutcome]
          exact .ok (.same _ hSource)
      | unfinished outcome octets hUnfinished hBack =>
          have hEnds : Meets (InFile t asked s package p.text)
              (fun e => ∃ cause, e = .file cause ∧
                ∀ fault, cause = .noPath fault → ¬ p.Proper) outcome := by
            cases hUnfinished with
            | broken r octets hBroken hSame hOctets =>
                have hInFile : InFile t asked s package p.text (source.result.writtenTo p.text) :=
                  .same _ hSource
                obtain rfl := Except.ok.inj hSame
                rw [writtenTo_of_broken hBroken] at hInFile
                exact .ok hInFile
            | mistaken o octets hMistake hSame hOctets => cases hSame
            | unencodable taken u octets hPieces hOctets => exact .ok (.unencodable taken u hPieces)
          cases hBack with
          | gone hLocked hOutcome hFile =>
              rw [hOutcome]
              exact hEnds
          | stuck hLocked hOutcome hFile =>
              rw [hOutcome]
              exact .error ⟨_, rfl, nofun⟩

/-- A class of a well-formed table is written to a file, as far as its file can be made.
Its path is refused by the system, unless it has a fault. -/
theorem meets_toFile (hTable : t.WellFormed) (hTarget : targetOf asked s t = .text package)
    (tree : Tree) :
    Meets (InFile t asked s package (path (.ofText root) package).text)
      (fun e => ∃ cause, e = .file cause ∧
        ∀ fault, cause = .noPath fault → NoPath root ∨ NoPath package)
      (toFile t (.ofText root) asked s tree).outcome := by
  have hHolds : ¬ (path (.ofText root) package).Proper → NoPath root ∨ NoPath package := by
    intro hFault
    by_contra hNone
    rw [not_or] at hNone
    exact hFault (proper_path hNone.1 hNone.2)
  rcases hMade : tree.makeDirectories (path (.ofText root) package).parent with ⟨grown, _ | e⟩
  · rw [toFile_of_made hTarget hMade]
    refine (meets_writeAt hTable hTarget grown _).mono ?_
    rintro _ ⟨cause, rfl, hFault⟩
    exact ⟨cause, rfl, fun fault hCause => hHolds (hFault fault hCause)⟩
  · rw [toFile_of_not_made hTarget hMade]
    refine .error ⟨e, rfl, fun fault hCause => hHolds fun hProper => ?_⟩
    have hRefused := Tree.makeDirectories_ne_noPath (t := tree) hProper.parent fault
    rw [hMade, hCause] at hRefused
    exact hRefused rfl

end

end RClass

end ResourceSymbols
