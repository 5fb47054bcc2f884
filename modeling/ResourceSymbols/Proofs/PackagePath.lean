import ResourceSymbols.Proofs.Directories
import ResourceSymbols.RClass.Output
import ResourceSymbols.Symbol.PackageName

/-!
# Where the class of a package lies

The segments of a package name are read as paths, one after the other.  As long as none
of them has a root, the path of the class goes down from the source root; else it starts
anew at the last root.  A package name without a problem is a row of identifiers between
points.  Each of them is one name of the path, so the path tells the package.

## Main results

* `intercalate_pieces` — pieces with the separators between them make the whole again.
* `path_of_not_restarts`, `exists_path_of_restarts` — where the path of a class goes
  down from the source root, and where it does not.
* `path_of_noWarnings` — a package name without a problem.
* `fileNames_injective`, `path_injective` — packages of one path are the same.
* `walk_down` — where names lead that only go down.
-/

namespace ResourceSymbols

/-! ## Pieces -/

namespace Text

/-- Pieces with the separators between them make the whole again. -/
theorem intercalate_pieces {α : Type} [DecidableEq α] (a : α) (xs : List α) :
    [a].intercalate (pieces a xs) = xs := by
  induction xs with
  | nil => rfl
  | cons x xs ih =>
      have hSome := pieces_ne_nil a xs
      unfold pieces
      cases hPieces : pieces a xs with
      | nil => exact absurd hPieces hSome
      | cons p ps =>
          rw [hPieces] at ih
          by_cases hSeparator : x = a
          · rw [if_pos hSeparator, List.intercalate_cons_cons, ih, hSeparator]
            rfl
          · rw [if_neg hSeparator]
            -- The character joins the first piece, which the separators leave alone.
            cases ps with
            | nil =>
                rw [List.intercalate_singleton] at ih ⊢
                rw [ih]
            | cons q qs =>
                rw [List.intercalate_cons_cons] at ih ⊢
                rw [← ih]
                rfl

theorem mem_of_mem_splitText {c x : Char} {s piece : String} (hPiece : piece ∈ splitText c s)
    (hMem : x ∈ piece.toList) : x ≠ c ∧ x ∈ s.toList := by
  obtain ⟨p, hp, rfl⟩ := List.mem_map.1 hPiece
  rw [String.toList_ofList] at hMem
  exact mem_of_mem_pieces hp hMem

/-- A text is told by what stands between its separators. -/
theorem splitText_injective (c : Char) {s t : String} (hSplit : splitText c s = splitText c t) :
    s = t := by
  have hPieces : pieces c s.toList = pieces c t.toList :=
    (List.map_inj_right fun _ _ h => String.ofList_injective h).1 hSplit
  have hLists : s.toList = t.toList := by
    rw [← intercalate_pieces c s.toList, hPieces, intercalate_pieces]
  exact String.toList_injective hLists

/-- A character that cannot stand in an identifier is in none. -/
theorem not_mem_of_isIdentifier {s : String} (hIdentifier : isIdentifier s = true) {c : Char}
    (hForeign : isIdentifierRest c = false) : c ∉ s.toList := by
  intro hMem
  unfold isIdentifier at hIdentifier
  cases hChars : s.toList with
  | nil => simp [hChars] at hIdentifier
  | cons d ds =>
      rw [hChars] at hIdentifier hMem
      simp only [Bool.and_eq_true, List.all_eq_true] at hIdentifier
      rcases List.mem_cons.1 hMem with rfl | hMem
      · rw [isIdentifierRest, hIdentifier.1] at hForeign
        cases hForeign
      · rw [hIdentifier.2 c hMem] at hForeign
        cases hForeign

theorem isIdentifierRest_slash : isIdentifierRest '/' = false := by decide +kernel

theorem isIdentifierRest_point : isIdentifierRest '.' = false := by decide +kernel

end Text

/-! ## Segments -/

namespace Symbol

theorem ne_empty_of_noWarnings {p : String} (hName : packageWarnings p = []) : p ≠ "" := by
  rintro rfl
  cases hName

/-- The segments of a name without a problem are identifiers. -/
theorem isIdentifier_of_noWarnings {p : String} (hName : packageWarnings p = []) {s : String}
    (hMem : s ∈ Text.splitText '.' p) : Text.isIdentifier s = true := by
  have hProblems : (Text.splitText '.' p).filterMap segmentProblem? = [] := by
    have hAll := List.map_eq_nil_iff.1 hName
    rwa [packageProblems, if_neg (by simpa using ne_empty_of_noWarnings hName)] at hAll
  have hNone := List.filterMap_eq_nil_iff.1 hProblems s hMem
  unfold segmentProblem? at hNone
  cases hIdentifier : Text.isIdentifier s with
  | true => rfl
  | false => simp [hIdentifier] at hNone

end Symbol

/-! ## Paths that are joined -/

namespace Files.Path

/-- Paths that start where they are used go on from the first. -/
theorem foldl_join_of_relative {ps : List Path} (hRelative : ∀ p ∈ ps, p.root = "")
    (base : Path) :
    ps.foldl join base = { base with names := base.names ++ ps.flatMap names } := by
  induction ps generalizing base with
  | nil => simp
  | cons p ps ih =>
      rw [List.forall_mem_cons] at hRelative
      rw [List.foldl_cons, ih hRelative.2]
      simp [join, hRelative.1]

/-- A path with a root starts anew, wherever it is used. -/
theorem exists_foldl_join_of_rooted {ps : List Path} (hRooted : ∃ p ∈ ps, p.root ≠ "") :
    ∃ q : Path, q.root ≠ "" ∧ ∀ base : Path, ps.foldl join base = q := by
  induction ps with
  | nil => simp at hRooted
  | cons p ps ih =>
      by_cases hLater : ∃ q ∈ ps, q.root ≠ ""
      · obtain ⟨q, hRoot, hSame⟩ := ih hLater
        exact ⟨q, hRoot, fun base => hSame _⟩
      · have hRelative : ∀ q ∈ ps, q.root = "" := by simpa using hLater
        have hRoot : p.root ≠ "" := by
          obtain ⟨q, hMem, hRoot⟩ := hRooted
          rcases List.mem_cons.1 hMem with rfl | hMem
          · exact hRoot
          · exact absurd ⟨q, hMem, hRoot⟩ hLater
        -- The rest goes on from here.
        refine ⟨{ p with names := p.names ++ ps.flatMap names }, hRoot, fun base => ?_⟩
        rw [List.foldl_cons, foldl_join_of_relative hRelative]
        simp [join, hRoot]

end Files.Path

/-! ## Paths of classes -/

namespace RClass

/-- The names from the source root to the class of a package. -/
def fileNames (p : String) : Files.Location := Text.splitText '.' p ++ ["R.java"]

theorem fileNames_injective {p q : String} (hNames : fileNames p = fileNames q) : p = q := by
  have hSegments : Text.splitText '.' p = Text.splitText '.' q :=
    (List.append_inj' hNames rfl).1
  exact Text.splitText_injective '.' hSegments

/-- The names that the segments of a package give to the path of its class, each read
as a path of its own. -/
def placeNames (p : String) : Files.Location :=
  ((Text.splitText '.' p).flatMap fun s => (Files.Path.ofText s).names) ++ ["R.java"]

/-- A segment of the package is a path with a root. -/
def Restarts (p : String) : Prop := ∃ s ∈ Text.splitText '.' p, (Files.Path.ofText s).root ≠ ""

theorem path_eq (root : Files.Path) (p : String) :
    path root p = (((Text.splitText '.' p).map Files.Path.ofText).foldl Files.Path.join root).join
      { root := "", names := ["R.java"] } := by
  rw [List.foldl_map]
  rfl

/-- The path goes down from the source root, as long as no segment has a root. -/
theorem path_of_not_restarts (root : Files.Path) {p : String} (hStays : ¬ Restarts p) :
    path root p = { root with names := root.names ++ placeNames p } := by
  have hRelative : ∀ q ∈ (Text.splitText '.' p).map Files.Path.ofText, q.root = "" := by
    rw [List.forall_mem_map]
    intro s hs
    exact Decidable.byContradiction fun hRooted => hStays ⟨s, hs, hRooted⟩
  rw [path_eq, Files.Path.foldl_join_of_relative hRelative, List.flatMap_map]
  simp [Files.Path.join, placeNames]

/-- The path of a class has a root of its own as soon as a segment has one, and then
the source root says nothing about it. -/
theorem exists_path_of_restarts {p : String} (hRestarts : Restarts p) :
    ∃ q : Files.Path, q.root ≠ "" ∧ ∀ root, path root p = q := by
  obtain ⟨s, hs, hRooted⟩ := hRestarts
  obtain ⟨q, hRoot, hSame⟩ := Files.Path.exists_foldl_join_of_rooted
    ⟨Files.Path.ofText s, List.mem_map_of_mem hs, hRooted⟩
  refine ⟨q.join { root := "", names := ["R.java"] }, hRoot, fun root => ?_⟩
  rw [path_eq, hSame]

/-- An identifier is a path of one name. -/
theorem ofText_of_isIdentifier {s : String} (hIdentifier : Text.isIdentifier s = true) :
    Files.Path.ofText s = { root := "", names := [s] } := by
  have hSlash := Text.not_mem_of_isIdentifier hIdentifier Text.isIdentifierRest_slash
  have hPoint := Text.not_mem_of_isIdentifier hIdentifier Text.isIdentifierRest_point
  have hSlashes : s.toList.takeWhile (· = '/') = [] := by
    cases hChars : s.toList with
    | nil => rfl
    | cons c cs =>
        have hFirst : c ≠ '/' := by
          rintro rfl
          exact hSlash (by rw [hChars]; exact List.mem_cons_self)
        rw [List.takeWhile_cons_of_neg (by simpa using hFirst)]
  have hNames : Text.splitText '/' s = [s] := by
    rw [Text.splitText, Text.pieces_eq_singleton hSlash, List.map_singleton, String.ofList_toList]
  have hName : Files.Path.isName s = true := by
    have hEmpty : s ≠ "" := by
      rintro rfl
      cases hIdentifier
    have hSingle : s ≠ "." := by
      rintro rfl
      exact hPoint (by decide)
    simp [Files.Path.isName, hEmpty, hSingle]
  simp [Files.Path.ofText, hSlashes, hNames, hName]

/-- A segment is cut at every point, so no name in it leads up. -/
theorem ne_up_of_mem_placeNames {p name : String} (hMem : name ∈ placeNames p) :
    name ≠ ".." := by
  rintro rfl
  rcases List.mem_append.1 hMem with hMem | hMem
  · obtain ⟨s, hs, hMem⟩ := List.mem_flatMap.1 hMem
    have hPoint : '.' ∈ s.toList :=
      (Text.mem_of_mem_splitText (List.mem_filter.1 hMem).1 (by decide)).2
    exact (Text.mem_of_mem_splitText hs hPoint).1 rfl
  · exact absurd (List.mem_singleton.1 hMem) (by decide)

/-- In a name without a problem each segment is one name of the path. -/
theorem placeNames_of_noWarnings {p : String} (hName : Symbol.packageWarnings p = []) :
    ¬ Restarts p ∧ placeNames p = fileNames p := by
  have hSegments : ∀ s ∈ Text.splitText '.' p,
      Files.Path.ofText s = { root := "", names := [s] } := fun s hs =>
    ofText_of_isIdentifier (Symbol.isIdentifier_of_noWarnings hName hs)
  constructor
  · rintro ⟨s, hs, hRooted⟩
    rw [hSegments s hs] at hRooted
    exact hRooted rfl
  · have hNames : ∀ s ∈ Text.splitText '.' p, (Files.Path.ofText s).names = [s] := by
      intro s hs
      rw [hSegments s hs]
    unfold placeNames fileNames
    rw [List.flatMap_def, List.map_congr_left hNames]
    simp [← List.flatMap_def]

/-- The path of a class goes down from the source root by the segments of the
package. -/
theorem path_of_noWarnings (root : Files.Path) {p : String}
    (hName : Symbol.packageWarnings p = []) :
    path root p = { root with names := root.names ++ fileNames p } := by
  obtain ⟨hStays, hNames⟩ := placeNames_of_noWarnings hName
  rw [path_of_not_restarts root hStays, hNames]

/-- Packages whose classes have one path are the same. -/
theorem path_injective (root : Files.Path) {p q : String}
    (hp : Symbol.packageWarnings p = []) (hq : Symbol.packageWarnings q = [])
    (hPath : path root p = path root q) : p = q := by
  rw [path_of_noWarnings root hp, path_of_noWarnings root hq, Files.Path.mk.injEq] at hPath
  exact fileNames_injective (List.append_cancel_left hPath.2)

end RClass

/-! ## Where paths lead -/

namespace Files.Tree

variable {t : Tree} {here l : Location}

theorem walk_append_eq_ok_iff {names more : List String} :
    t.walk here (names ++ more) = .ok l ↔
      ∃ k, t.walk here names = .ok k ∧ t.walk k more = .ok l := by
  induction names generalizing here with
  | nil => simp [walk]
  | cons name names ih =>
      rw [List.cons_append, walk, walk]
      cases t.step here name with
      | error c => simp
      | ok next => exact ih

/-- Names that only go down lead to the location below by these names. -/
theorem walk_down {names : List String} (hDown : ∀ name ∈ names, name ≠ "..")
    (hWalk : t.walk here names = .ok l) : l = here ++ names := by
  induction names generalizing here with
  | nil =>
      rw [walk, Except.ok.injEq] at hWalk
      rw [List.append_nil, hWalk]
  | cons name names ih =>
      rw [List.forall_mem_cons] at hDown
      rw [walk] at hWalk
      cases hStep : t.step here name with
      | error c => simp [hStep] at hWalk
      | ok next =>
          have hNext : next = here ++ [name] := by
            unfold step at hStep
            split at hStep
            · cases hStep
            · cases hStep
            · cases hStep
            · rw [if_neg hDown.1] at hStep
              split at hStep
              · cases hStep
              · exact (Except.ok.inj hStep).symm
          simp only [hStep] at hWalk
          rw [ih hDown.2 hWalk, hNext, List.append_assoc, List.singleton_append]

/-- The path leads to the location, however long it is as a text. -/
def LeadsTo (t : Tree) (p : Path) (l : Location) : Prop :=
  t.walk (if p.root.isEmpty then t.home else []) p.names = .ok l

theorem LeadsTo.eq {p : Path} {k : Location} (h : t.LeadsTo p l) (h' : t.LeadsTo p k) : l = k :=
  Except.ok.inj (h.symm.trans h')

theorem LeadsTo.of_retains {a b : Tree} (h : a.Retains b) {p : Path} {l : Location}
    (hLeads : a.LeadsTo p l) : b.LeadsTo p l := by
  unfold LeadsTo at hLeads ⊢
  rw [h.home]
  exact walk_of_directories h.directory hLeads

theorem leadsTo_of_locate {p : Path} (hLocate : t.locate p = .ok l) : t.LeadsTo p l := by
  unfold locate at hLocate
  unfold LeadsTo
  split at hLocate
  · cases hLocate
  · split at hLocate
    · cases hLocate
    · cases hWalk : t.walk (if p.root.isEmpty then t.home else []) p.names with
      | error c =>
          rw [hWalk] at hLocate
          cases hLocate
      | ok there =>
          rw [hWalk] at hLocate
          exact congrArg Except.ok (Except.ok.inj hLocate)

/-- Where the path of a class leads, below where the source root leads. -/
theorem exists_leadsTo_of_not_restarts {root : Path} {p : String} (hStays : ¬ RClass.Restarts p)
    (hPath : t.LeadsTo (RClass.path root p) l) :
    ∃ k, t.LeadsTo root k ∧ l = k ++ RClass.placeNames p := by
  rw [RClass.path_of_not_restarts root hStays] at hPath
  obtain ⟨k, hRoot, hBelow⟩ := walk_append_eq_ok_iff.1 hPath
  exact ⟨k, hRoot, walk_down (fun _ => RClass.ne_up_of_mem_placeNames) hBelow⟩

theorem exists_leadsTo_root {root : Path} {p : String}
    (hName : Symbol.packageWarnings p = []) (hPath : t.LeadsTo (RClass.path root p) l) :
    ∃ k, t.LeadsTo root k ∧ l = k ++ RClass.fileNames p := by
  obtain ⟨hStays, hNames⟩ := RClass.placeNames_of_noWarnings hName
  rw [← hNames]
  exact exists_leadsTo_of_not_restarts hStays hPath

end Files.Tree

end ResourceSymbols
