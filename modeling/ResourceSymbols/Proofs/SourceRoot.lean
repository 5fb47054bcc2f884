import ResourceSymbols.Proofs.PackagePath
import ResourceSymbols.Proofs.Writing

/-!
# Classes below a source root

The segments of a package may hold anything but points.  One that starts with a slash is
a path with a root, and then the class lies where the source root has no say.  No other
segment leads out of the source root, so the files elsewhere are left alone.

## Main results

* `root_ofText_eq_empty_iff` — a text is a path with a root if it starts with a slash.
* `below_path_iff` — when the path of a class goes down from its source root.
* `toFile_growsApart` — where a class is written, and what stays.
* `toFile_below` — classes below a source root, and classes that are not.
-/

namespace ResourceSymbols

namespace Files.Path

/-- The path goes down from the root to the file of a class. -/
def Below (root p : Path) : Prop :=
  ∃ names, p = { root with names := root.names ++ names } ∧
    names.getLast? = some "R.java" ∧ ".." ∉ names

theorem root_ofText_eq_empty_iff {s : String} :
    (ofText s).root = "" ↔ s.toList.head? ≠ some '/' := by
  unfold ofText
  cases hChars : s.toList with
  | nil => simp
  | cons c cs =>
      by_cases hSlash : c = '/'
      · rw [hSlash, List.takeWhile_cons_of_pos (by simp)]
        simp only [List.length_cons, Nat.add_one_ne_zero, if_false, List.head?_cons, ne_eq,
          not_true_eq_false, iff_false]
        split <;> decide
      · rw [List.takeWhile_cons_of_neg (by simpa using hSlash)]
        simpa using hSlash

end Files.Path

namespace RClass

open Resource (Table)
open Files (Path Tree)

theorem restarts_iff {p : String} :
    Restarts p ↔ ∃ s ∈ Text.splitText '.' p, s.toList.head? = some '/' := by
  simp only [Restarts, ne_eq, Path.root_ofText_eq_empty_iff, not_not]

theorem below_of_not_restarts (root : Path) {p : String} (hStays : ¬ Restarts p) :
    root.Below (path root p) :=
  ⟨placeNames p, path_of_not_restarts root hStays, by simp [placeNames],
    fun hUp => ne_up_of_mem_placeNames hUp rfl⟩

/-- The path of a class goes down from a source root that has no root, unless it starts
anew. -/
theorem below_path_iff {root : Path} (hRelative : root.root = "") {p : String} :
    root.Below (path root p) ↔ ¬ Restarts p := by
  constructor
  · rintro ⟨names, hPath, -, -⟩ hRestarts
    obtain ⟨q, hRoot, hSame⟩ := exists_path_of_restarts hRestarts
    rw [← hSame root, hPath] at hRoot
    exact hRoot hRelative
  · exact below_of_not_restarts root

/-! ## Files -/

section

variable {t : Table} {root : Path} {asked : Json.Value} {s : Settings} {package : String}

/-- The location where the path of the class leads may change.  Elsewhere a directory
may come, and nothing else. -/
theorem toFile_growsApart (hTarget : targetOf asked s t = .text package) (tree : Tree) :
    tree.Grows (toFile t root asked s tree).tree ∨
      ∃ l, (toFile t root asked s tree).tree.LeadsTo (path root package) l ∧
        tree.GrowsApart l (toFile t root asked s tree).tree := by
  have hGrows := Tree.makeDirectories_grows tree (path root package).parent
  rcases hMade : tree.makeDirectories (path root package).parent with ⟨grown, _ | e⟩
  · rw [hMade] at hGrows
    rw [toFile_of_made hTarget hMade]
    cases hOpen : grown.write (path root package) [] with
    | error e =>
        cases writeAt_of_refused t (.text package) (styleOf s) hOpen with
        | stays e' hError hOutcome hTree =>
            rw [hTree]
            exact .inl hGrows
        | removed l octets hPlace hNode hLocked hOutcome hTree =>
            have hApart := ((Tree.Grows.refl grown).apart l).remove
            have hFree : grown.node? l ≠ some .directory := by simp [hNode]
            rw [hTree]
            exact .inr ⟨l, (Tree.leadsTo_of_locate hPlace).of_retains (hApart.retains hFree),
              hGrows.trans_apart hApart⟩
    | ok opened =>
        obtain ⟨l, hLocate, hPlace, -⟩ := Tree.write_eq_ok_iff.1 hOpen
        obtain ⟨-, hApart⟩ := writeAt_settled t asked s hTarget hLocate hPlace
        have hLeads :=
          (Tree.leadsTo_of_locate hLocate).of_retains (hApart.retains hPlace.ne_directory)
        exact .inr ⟨l, hLeads, hGrows.trans_apart hApart⟩
  · rw [hMade] at hGrows
    rw [toFile_of_not_made hTarget hMade]
    exact .inl hGrows

/-- A class whose path starts anew is written to the same place for every source root. -/
theorem toFile_eq_of_restarts (hTarget : targetOf asked s t = .text package)
    (hRestarts : Restarts package) (other : Path) (tree : Tree) :
    toFile t other asked s tree = toFile t root asked s tree := by
  obtain ⟨q, -, hSame⟩ := exists_path_of_restarts hRestarts
  simp only [toFile, hTarget, Json.Value.text?, hSame]

/-- A class lies below its source root unless a segment of its package starts with a
slash.  Below the source root one location may change, and elsewhere no file comes, goes
or changes.  Else the path has a root of its own, and the source root has no say. -/
theorem toFile_below (hRelative : root.root = "")
    (hTarget : targetOf asked s t = .text package) (tree : Tree) :
    (root.Below (path root package) ↔
      ∀ segment ∈ Text.splitText '.' package, segment.toList.head? ≠ some '/') ∧
    (root.Below (path root package) →
      tree.Grows (toFile t root asked s tree).tree ∨
        ∃ l names, (toFile t root asked s tree).tree.LeadsTo root l ∧
          (path root package).names = root.names ++ names ∧
          tree.GrowsApart (l ++ names) (toFile t root asked s tree).tree) ∧
    (¬ root.Below (path root package) →
      (∃ q : Path, q.root ≠ "" ∧ ∀ other, path other package = q) ∧
        ∀ other, toFile t other asked s tree = toFile t root asked s tree) := by
  refine ⟨?_, fun hBelow => ?_, fun hElsewhere => ?_⟩
  · rw [below_path_iff hRelative, restarts_iff]
    push Not
    rfl
  · have hStays := (below_path_iff hRelative).1 hBelow
    refine (toFile_growsApart hTarget tree).imp_right ?_
    rintro ⟨l, hLeads, hApart⟩
    obtain ⟨k, hRoot, rfl⟩ := Tree.exists_leadsTo_of_not_restarts hStays hLeads
    have hNames := congrArg Path.names (path_of_not_restarts root hStays)
    exact ⟨k, placeNames package, hRoot, hNames, hApart⟩
  · have hRestarts : Restarts package := not_not.1 fun hStays =>
      hElsewhere (below_of_not_restarts root hStays)
    exact ⟨exists_path_of_restarts hRestarts,
      fun other => toFile_eq_of_restarts hTarget hRestarts other tree⟩

end

/-- A table of the package `app`, with entries of `a/b.c` and of `/srv.lib`. -/
def slashedDocument : Json.Value :=
  .object [("package", .text "app"), ("id", .int 0x7F), ("types", .list [
    .object [("type", .text "id"), ("id", .int 1), ("entries", .list [
      .object [("name", .text "a/b.c$x"), ("id", .int 0)],
      .object [("name", .text "/srv.lib$y"), ("id", .int 1)]])]])]

def slashedTable : Table :=
  { package := "app", number := 0x7F
    groups := [{ kind := .id, number := 1
                 entries := [⟨"a/b.c$x", 0, []⟩, ⟨"/srv.lib$y", 1, []⟩] }] }

theorem toFile_below_slashedTable :
    (Path.ofText "out").root = "" ∧
    targetOf (.text "a/b.c") {} slashedTable = .text "a/b.c" ∧
    (Path.ofText "out").Below (path (.ofText "out") "a/b.c") ∧
    path (.ofText "out") "a/b.c" = { root := "", names := ["out", "a", "b", "c", "R.java"] } ∧
    (Tree.empty.Grows (toFile slashedTable (.ofText "out") (.text "a/b.c") {} .empty).tree ∨
      ∃ l names,
        (toFile slashedTable (.ofText "out") (.text "a/b.c") {} .empty).tree.LeadsTo
          (.ofText "out") l ∧
        (path (.ofText "out") "a/b.c").names = (Path.ofText "out").names ++ names ∧
        Tree.empty.GrowsApart (l ++ names)
          (toFile slashedTable (.ofText "out") (.text "a/b.c") {} .empty).tree) := by
  have hRelative : (Path.ofText "out").root = "" := by decide
  have hTarget : targetOf (.text "a/b.c") {} slashedTable = .text "a/b.c" := rfl
  obtain ⟨hIff, hBelow, -⟩ := toFile_below hRelative hTarget .empty
  have hHere := hIff.2 (by decide)
  exact ⟨hRelative, hTarget, hHere, by decide +kernel, hBelow hHere⟩

/-- The package `/srv.lib` is listed, and its class is written below the root of the tree. -/
theorem not_below_slashedDocument :
    Table.ofDocument slashedDocument = .ok slashedTable ∧
    "/srv.lib" ∈ slashedTable.packages ∧ (Path.ofText "out").root = "" ∧
    path (.ofText "out") "/srv.lib" = { root := "/", names := ["srv", "lib", "R.java"] } ∧
    ¬ (Path.ofText "out").Below (path (.ofText "out") "/srv.lib") ∧
    (toFile slashedTable (.ofText "out") (.text "/srv.lib") {} .empty).tree.isFile
      { root := "/", names := ["srv", "lib", "R.java"] } = .ok true := by
  have hPath : path (.ofText "out") "/srv.lib" =
      { root := "/", names := ["srv", "lib", "R.java"] } := by
    decide +kernel
  refine ⟨rfl, by decide +kernel, by decide, hPath, ?_, ?_⟩
  · rintro ⟨names, hNames, -⟩
    rw [hPath] at hNames
    have hRoot : "/" = (Path.ofText "out").root := congrArg Path.root hNames
    exact absurd hRoot (by decide)
  · decide +kernel

end RClass

end ResourceSymbols
