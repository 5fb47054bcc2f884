import ResourceSymbols.Files.Tree

/-!
# What changes of a tree leave as it was

Directories are made where nothing was, so making them keeps every file as it is.  A
path is followed through directories alone, so it leads to the same location in every
tree that has these directories still.

## Main results

* `makeDirectories_grows` — making directories adds directories and nothing else.
* `Grows.retains`, `GrowsApart.retains` — the directories that were there still are.
* `locate_of_directories` — where a path leads is told by the directories.
* `write_eq_ok_iff`, `unlink_eq_ok_iff` — what it takes to write a file and to
  remove one.
* `read_put`, `isThere_remove` — what is at a path afterwards.
-/

namespace ResourceSymbols.Files.Tree

/-! ## Trees that gain directories -/

/-- What stands at a location stays, or a directory is made where nothing stood. -/
def Stays (before after : Option Node) : Prop :=
  after = before ∨ (before = none ∧ after = some .directory)

theorem Stays.trans {a b c : Option Node} (hab : Stays a b) (hbc : Stays b c) :
    Stays a c := by
  rcases hab with rfl | ⟨rfl, rfl⟩
  · exact hbc
  · rcases hbc with rfl | ⟨hNone, -⟩
    · exact .inr ⟨rfl, rfl⟩
    · cases hNone

/-- Nothing takes the place of what stays. -/
theorem Stays.eq_of_some {n : Node} {after : Option Node} (h : Stays (some n) after) :
    after = some n := by
  rcases h with hSame | ⟨hNone, -⟩
  · exact hSame
  · cases hNone

/-- The second tree is the first with more directories. -/
structure Grows (before after : Tree) : Prop where
  home : after.home = before.home
  node : ∀ l, Stays (before.node? l) (after.node? l)

/-- The second tree is the first with more directories, and with anything at the
location. -/
structure GrowsApart (l : Location) (before after : Tree) : Prop where
  home : after.home = before.home
  node : ∀ k, k ≠ l → Stays (before.node? k) (after.node? k)

theorem Grows.refl (t : Tree) : t.Grows t := ⟨rfl, fun _ => .inl rfl⟩

theorem Grows.trans {a b c : Tree} (hab : a.Grows b) (hbc : b.Grows c) : a.Grows c :=
  ⟨hbc.home.trans hab.home, fun l => (hab.node l).trans (hbc.node l)⟩

theorem Grows.trans_apart {a b c : Tree} {l : Location} (hab : a.Grows b)
    (hbc : b.GrowsApart l c) : a.GrowsApart l c :=
  ⟨hbc.home.trans hab.home, fun k hk => (hab.node k).trans (hbc.node k hk)⟩

theorem Grows.apart {a b : Tree} (h : a.Grows b) (l : Location) : a.GrowsApart l b :=
  ⟨h.home, fun k _ => h.node k⟩

theorem GrowsApart.put {a b : Tree} {l : Location} (h : a.GrowsApart l b) (n : Node) :
    a.GrowsApart l (b.put l n) := by
  refine ⟨h.home, fun k hk => ?_⟩
  rw [node?_put_of_ne b hk]
  exact h.node k hk

theorem GrowsApart.remove {a b : Tree} {l : Location} (h : a.GrowsApart l b) :
    a.GrowsApart l (b.remove l) := by
  refine ⟨h.home, fun k hk => ?_⟩
  rw [node?_remove_of_ne b hk]
  exact h.node k hk

/-- The second tree has the directories of the first, and paths start where they did. -/
structure Retains (before after : Tree) : Prop where
  home : after.home = before.home
  directory : ∀ l, before.node? l = some .directory → after.node? l = some .directory

theorem Retains.refl (t : Tree) : t.Retains t := ⟨rfl, fun _ h => h⟩

theorem Retains.trans {a b c : Tree} (hab : a.Retains b) (hbc : b.Retains c) : a.Retains c :=
  ⟨hbc.home.trans hab.home, fun l h => hbc.directory l (hab.directory l h)⟩

theorem Grows.retains {a b : Tree} (h : a.Grows b) : a.Retains b := by
  refine ⟨h.home, fun l hl => ?_⟩
  have hStays := h.node l
  rw [hl] at hStays
  exact hStays.eq_of_some

/-- Where no directory was, anything may come. -/
theorem GrowsApart.retains {a b : Tree} {l : Location} (h : a.GrowsApart l b)
    (hFree : a.node? l ≠ some .directory) : a.Retains b := by
  refine ⟨h.home, fun k hk => ?_⟩
  have hApart : k ≠ l := fun hSame => hFree (hSame ▸ hk)
  have hStays := h.node k hApart
  rw [hk] at hStays
  exact hStays.eq_of_some

/-- The root is a directory in every tree. -/
theorem node?_nil (t : Tree) : t.node? [] = some .directory := if_pos rfl

theorem makeDirectory_grows {t t' : Tree} {p : Path} (hMade : t.makeDirectory p = .ok t') :
    t.Grows t' := by
  unfold makeDirectory at hMade
  cases hLocate : t.locate p with
  | error e => simp [hLocate] at hMade
  | ok l =>
      cases hNode : t.node? l with
      | some n => simp [hLocate, hNode] at hMade
      | none =>
          obtain rfl : t.put l .directory = t' := by
            simp only [hLocate, hNode] at hMade
            split at hMade
            · cases hMade
            · exact Except.ok.inj hMade
          have hRoot : l ≠ [] := by
            rintro rfl
            rw [node?_nil] at hNode
            cases hNode
          refine ⟨rfl, fun k => ?_⟩
          by_cases hk : k = l
          · subst hk
            exact .inr ⟨hNode, node?_put_self t hRoot _⟩
          · exact .inl (node?_put_of_ne t hk _)

/-- Each step makes a directory, or leaves the tree as it is. -/
theorem makeDirectoriesAt_grows (t : Tree) (root : String) (names : List String) :
    t.Grows (t.makeDirectoriesAt root names).1 := by
  induction names with
  | nil =>
      unfold makeDirectoriesAt
      simp only
      split
      · rename_i hMade
        exact makeDirectory_grows hMade
      · exact Grows.refl t
  | cons name above ih =>
      unfold makeDirectoriesAt
      simp only
      split
      · rename_i hMade
        exact makeDirectory_grows hMade
      · -- A directory above is missing, and is made first.
        split
        · rename_i hAbove
          rwa [hAbove] at ih
        · rename_i t' hAbove
          rw [hAbove] at ih
          split
          · rename_i hMade
            exact ih.trans (makeDirectory_grows hMade)
          · exact ih
          · exact ih
      · exact Grows.refl t

theorem makeDirectories_grows (t : Tree) (p : Path) : t.Grows (t.makeDirectories p).1 :=
  makeDirectoriesAt_grows t p.root p.names.reverse

/-! ## Where a path leads -/

section

variable {t t' : Tree}

theorem step_of_directories
    (hDirectories : ∀ l, t.node? l = some .directory → t'.node? l = some .directory)
    {here next : Location} {name : String} (hStep : t.step here name = .ok next) :
    t'.step here name = .ok next := by
  unfold step at hStep ⊢
  cases hNode : t.node? here with
  | none => simp [hNode] at hStep
  | some n =>
      cases n with
      | file octets => simp [hNode] at hStep
      | readOnly octets => simp [hNode] at hStep
      | directory =>
          rw [hNode] at hStep
          rw [hDirectories here hNode]
          exact hStep

theorem walk_of_directories
    (hDirectories : ∀ l, t.node? l = some .directory → t'.node? l = some .directory)
    {here there : Location} {names : List String} (hWalk : t.walk here names = .ok there) :
    t'.walk here names = .ok there := by
  induction names generalizing here with
  | nil => exact hWalk
  | cons name names ih =>
      unfold walk at hWalk ⊢
      cases hStep : t.step here name with
      | error c => simp [hStep] at hWalk
      | ok next =>
          simp only [hStep] at hWalk
          simp only [step_of_directories hDirectories hStep]
          exact ih hWalk

/-- A path leads to the same location as long as the directories are there. -/
theorem locate_of_directories (hHome : t'.home = t.home)
    (hDirectories : ∀ l, t.node? l = some .directory → t'.node? l = some .directory)
    {p : Path} {l : Location} (hLocate : t.locate p = .ok l) : t'.locate p = .ok l := by
  unfold locate at hLocate ⊢
  rw [hHome]
  split at hLocate
  · cases hLocate
  · split at hLocate
    · cases hLocate
    · rename_i hLong
      rw [if_neg hLong]
      cases hWalk : t.walk (if p.root.isEmpty then t.home else []) p.names with
      | error c =>
          rw [hWalk] at hLocate
          cases hLocate
      | ok there =>
          rw [hWalk] at hLocate
          rw [walk_of_directories hDirectories hWalk]
          exact hLocate

/-! ## Files

A file that is written or removed is no directory, so all paths lead where they
led before. -/

/-- A file can be written at the location: one is there and is not protected, or there is
none and one can be made. -/
def Writable (t : Tree) (l : Location) : Prop :=
  (∃ octets, t.node? l = some (.file octets)) ∨ (t.node? l = none ∧ t.isLocked l = false)

theorem Writable.ne_directory {l : Location} (h : t.Writable l) :
    t.node? l ≠ some .directory := by
  rcases h with ⟨octets, hFile⟩ | ⟨hNone, -⟩
  · simp [hFile]
  · simp [hNone]

theorem write_eq_ok_iff {p : Path} {octets : List UInt8} :
    t.write p octets = .ok t' ↔
      ∃ l, t.locate p = .ok l ∧ t.Writable l ∧ t' = t.put l (.file octets) := by
  unfold write Writable
  cases t.locate p with
  | error e => simp
  | ok l =>
      simp only [Except.ok.injEq, exists_eq_left']
      cases t.node? l with
      | none => cases t.isLocked l <;> simp [eq_comm (a := t')]
      | some n => cases n <;> simp [eq_comm (a := t')]

theorem unlink_eq_ok_iff {p : Path} :
    t.unlink p = .ok t' ↔
      ∃ l n, t.locate p = .ok l ∧ t.node? l = some n ∧ n ≠ .directory ∧
        t.isLocked l = false ∧ t' = t.remove l := by
  unfold unlink
  cases t.locate p with
  | error e => simp
  | ok l =>
      simp only [Except.ok.injEq, exists_and_left, exists_eq_left']
      cases t.node? l with
      | none => simp
      | some n =>
          by_cases hDirectory : n = .directory
          · cases t.isLocked l <;> simp [hDirectory]
          · cases t.isLocked l <;> simp [hDirectory, eq_comm (a := t')]

/-- The root is no place for a file. -/
theorem ne_nil_of_node? {l : Location} (hFree : t.node? l ≠ some .directory) : l ≠ [] := by
  rintro rfl
  exact hFree t.node?_nil

theorem locate_put {l : Location} (hFree : t.node? l ≠ some .directory) {p : Path}
    (hLocate : t.locate p = .ok l) (n : Node) : (t.put l n).locate p = .ok l := by
  have hHome : (t.put l n).home = t.home := rfl
  refine locate_of_directories hHome (fun k hk => ?_) hLocate
  have hApart : k ≠ l := fun h => hFree (h ▸ hk)
  rw [node?_put_of_ne t hApart]
  exact hk

theorem locate_remove {l : Location} (hFree : t.node? l ≠ some .directory) {p : Path}
    (hLocate : t.locate p = .ok l) : (t.remove l).locate p = .ok l := by
  have hHome : (t.remove l).home = t.home := rfl
  refine locate_of_directories hHome (fun k hk => ?_) hLocate
  have hApart : k ≠ l := fun h => hFree (h ▸ hk)
  rw [node?_remove_of_ne t hApart]
  exact hk

/-- What is written last stays. -/
theorem putNode_putNode (l : Location) (m n : Node) (ms : List (Location × Node)) :
    putNode l n (putNode l m ms) = putNode l n ms := by
  induction ms with
  | nil => simp [putNode]
  | cons other ms ih =>
      by_cases hSame : other.1 = l
      · simp [putNode, hSame]
      · simp [putNode, hSame, ih]

theorem put_put (t : Tree) (l : Location) (m n : Node) : (t.put l m).put l n = t.put l n := by
  rw [put, put, putNode_putNode]
  rfl

/-- What was written can be written again. -/
theorem write_put {l : Location} (hFree : t.node? l ≠ some .directory) {p : Path}
    (hLocate : t.locate p = .ok l) (before octets : List UInt8) :
    (t.put l (.file before)).write p octets = .ok (t.put l (.file octets)) := by
  have hNode := node?_put_self t (ne_nil_of_node? hFree) (.file before)
  rw [← put_put t l (.file before) (.file octets)]
  exact write_eq_ok_iff.2 ⟨l, locate_put hFree hLocate _, .inl ⟨before, hNode⟩, rfl⟩

/-- What was written is read. -/
theorem read_put {l : Location} (hFree : t.node? l ≠ some .directory) {p : Path}
    (hLocate : t.locate p = .ok l) (octets : List UInt8) :
    (t.put l (.file octets)).read p = .ok octets := by
  unfold read stat
  rw [locate_put hFree hLocate]
  simp only [node?_put_self t (ne_nil_of_node? hFree)]

/-- A file that was opened can be written, and then it is read. -/
theorem exists_write_of_opened {p : Path} (hOpened : t.write p [] = .ok t')
    (octets : List UInt8) :
    ∃ saved, t'.write p octets = .ok saved ∧ saved.read p = .ok octets := by
  obtain ⟨l, hLocate, hPlace, rfl⟩ := write_eq_ok_iff.1 hOpened
  exact ⟨_, write_put hPlace.ne_directory hLocate [] octets,
    read_put hPlace.ne_directory hLocate octets⟩

/-- Nothing is where a file was removed. -/
theorem isThere_remove {l : Location} (hFree : t.node? l ≠ some .directory) {p : Path}
    (hLocate : t.locate p = .ok l) : (t.remove l).isThere p = .ok false := by
  unfold isThere check stat
  rw [locate_remove hFree hLocate]
  simp only [node?_remove_self t (ne_nil_of_node? hFree)]

end

end ResourceSymbols.Files.Tree
