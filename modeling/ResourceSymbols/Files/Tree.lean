import ResourceSymbols.Files.Error
import ResourceSymbols.Files.Path

/-!
# File trees

A tree of files and directories, and the directory in it where paths without a
root start.  A location is the list of names from the root; the root itself is
always a directory.

A file may be protected from being written, and still it can be removed.  A directory may
be protected as well, and then nothing in it is made or removed, but its files can be
written.  Everything can be read.  There are no links.  Two names are the same only as
texts; that a name with halves of surrogate pairs may have the octets of another is left
out.

## Main results

* `node?_put_self`, `node?_put_of_ne` — writing a location changes that location.
* `node?_remove_self`, `node?_remove_of_ne` — so does removing it.
-/

namespace ResourceSymbols.Files

/-- The names from the root to a place in a tree. -/
abbrev Location := List String

/-- What stands at a location. -/
inductive Node
  | directory
  | file (octets : List UInt8)
  /-- A file that cannot be written. -/
  | readOnly (octets : List UInt8)
deriving DecidableEq, Repr

/-- A file tree. -/
structure Tree where
  /-- Where paths without a root start. -/
  home : Location
  nodes : List (Location × Node)
  /-- The directories in which nothing can be made or removed. -/
  locked : List Location := []
deriving Repr

/-- A change of a tree. -/
inductive Edit
  | makeDirectory (l : Location)
  | write (l : Location) (octets : List UInt8)
  | remove (l : Location)
deriving DecidableEq, Repr

namespace Tree

/-- What stands at the location. -/
def node? (t : Tree) (l : Location) : Option Node :=
  if l = [] then some .directory else t.nodes.lookup l

/-- Whether nothing can be made or removed at the location. -/
def isLocked (t : Tree) (l : Location) : Bool := t.locked.contains l.dropLast

/-- Writes the node among the others, in its place or after them. -/
def putNode (l : Location) (n : Node) : List (Location × Node) → List (Location × Node)
  | [] => [(l, n)]
  | m :: ms => if m.1 = l then (l, n) :: ms else m :: putNode l n ms

/-- The tree with the node at the location. -/
def put (t : Tree) (l : Location) (n : Node) : Tree := { t with nodes := putNode l n t.nodes }

/-- The tree with nothing at the location. -/
def remove (t : Tree) (l : Location) : Tree :=
  { t with nodes := t.nodes.filter fun m => m.1 ≠ l }

theorem lookup_cons (m : Location × Node) (ms : List (Location × Node)) (k : Location) :
    (m :: ms).lookup k = if k = m.1 then some m.2 else ms.lookup k := by
  obtain ⟨l, n⟩ := m
  by_cases h : k = l
  · subst h; simp
  · have hb : (k == l) = false := by simpa using h
    simp [List.lookup_cons, hb, h]

theorem lookup_putNode (l k : Location) (n : Node) (ms : List (Location × Node)) :
    (putNode l n ms).lookup k = if k = l then some n else ms.lookup k := by
  induction ms with
  | nil => simp [putNode, lookup_cons]
  | cons m ms ih =>
    by_cases h : m.1 = l
    · by_cases hk : k = l <;> simp [putNode, h, lookup_cons, hk]
    · by_cases hk : k = l
      · subst hk
        simp [putNode, h, lookup_cons, ih, Ne.symm h]
      · simp [putNode, h, lookup_cons, ih, hk]

theorem node?_put_self (t : Tree) {l : Location} (h : l ≠ []) (n : Node) :
    (t.put l n).node? l = some n := by
  simp [node?, put, h, lookup_putNode]

theorem node?_put_of_ne (t : Tree) {l k : Location} (h : k ≠ l) (n : Node) :
    (t.put l n).node? k = t.node? k := by
  simp [node?, put, h, lookup_putNode]

theorem lookup_filter (l k : Location) (ms : List (Location × Node)) :
    (ms.filter fun m => m.1 ≠ l).lookup k = if k = l then none else ms.lookup k := by
  induction ms with
  | nil => simp
  | cons m ms ih =>
    by_cases h : m.1 = l
    · by_cases hk : k = l
      · simpa [h, hk, lookup_cons] using ih
      · simpa [h, hk, lookup_cons] using ih
    · by_cases hk : k = l
      · subst hk
        simpa [h, lookup_cons, Ne.symm h] using ih
      · simp only [ne_eq, h, not_false_eq_true, decide_true, List.filter_cons_of_pos, lookup_cons,
          hk, if_false]
        simp only [ne_eq, hk, if_false] at ih
        rw [ih]

theorem node?_remove_self (t : Tree) {l : Location} (h : l ≠ []) : (t.remove l).node? l = none := by
  simp only [node?, remove, h, if_false, lookup_filter, if_true]

theorem node?_remove_of_ne (t : Tree) {l k : Location} (h : k ≠ l) :
    (t.remove l).node? k = t.node? k := by
  simp only [node?, remove, lookup_filter, h, if_false]

/-! ## Following a path -/

/-- How many octets spell the text in a path, if they do. -/
def octetCount (text : String) : Nat :=
  (Text.codePoints text.toList).foldl (fun count p =>
    match p with
    | .char c => count + c.utf8Size
    | .half _ => count + 1) 0

/-- What keeps the text from being a path. -/
def pathFault? (text : String) : Option PathFault :=
  match Text.Utf8.encodePath text with
  | .error u => some (.unencodable u)
  | .ok _ => if text.toList.contains '\x00' then some .nullByte else none

/-- The most octets of a name. -/
def nameLimit : Nat := 255

/-- The fewest octets of a path that is too long as a whole. -/
def pathLimit : Nat := 4096

/-- The location that a name leads to.  Only a directory leads anywhere. -/
def step (t : Tree) (here : Location) (name : String) : Except Cause Location :=
  match t.node? here with
  | none => .error .notFound
  | some (.file _) | some (.readOnly _) => .error .notDirectory
  | some .directory =>
    if name = ".." then .ok here.dropLast
    else if nameLimit < octetCount name then .error .nameTooLong
    else .ok (here ++ [name])

/-- The location that the names lead to.  Nothing needs to be there. -/
def walk (t : Tree) (here : Location) : List String → Except Cause Location
  | [] => .ok here
  | name :: names =>
    match t.step here name with
    | .error c => .error c
    | .ok next => t.walk next names

/-- The location that the path leads to. -/
def locate (t : Tree) (p : Path) : Except Error Location :=
  match pathFault? p.text with
  | some fault => .error (.noPath fault)
  | none =>
    if pathLimit ≤ octetCount p.text then .error (.refused .nameTooLong p.text)
    else (t.walk (if p.root.isEmpty then t.home else []) p.names).mapError fun c =>
      .refused c p.text

/-- What stands where the path leads. -/
def stat (t : Tree) (p : Path) : Except Error Node :=
  match t.locate p with
  | .error e => .error e
  | .ok l =>
    match t.node? l with
    | some n => .ok n
    | none => .error (.refused .notFound p.text)

/-- Whether `test` holds of what stands where the path leads.  It does not where
nothing can stand. -/
def check (test : Node → Bool) (t : Tree) (p : Path) : Except Error Bool :=
  match t.stat p with
  | .ok n => .ok (test n)
  | .error (.noPath _) => .ok false
  | .error (.refused .notFound _) => .ok false
  | .error (.refused .notDirectory _) => .ok false
  | .error e => .error e

/-- Whether anything stands where the path leads. -/
def isThere (t : Tree) (p : Path) : Except Error Bool := t.check (fun _ => true) p

/-- Whether a file stands where the path leads. -/
def isFile (t : Tree) (p : Path) : Except Error Bool := t.check (· ≠ .directory) p

/-- Whether a directory stands where the path leads. -/
def isDirectory (t : Tree) (p : Path) : Except Error Bool := t.check (· = .directory) p

/-! ## Files -/

/-- The octets of the file. -/
def read (t : Tree) (p : Path) : Except Error (List UInt8) :=
  match t.stat p with
  | .error e => .error e
  | .ok .directory => .error (.refused .isDirectory p.text)
  | .ok (.file octets) | .ok (.readOnly octets) => .ok octets

/-- The tree with the octets as the file, and what was in it replaced. -/
def write (t : Tree) (p : Path) (octets : List UInt8) : Except Error Tree :=
  match t.locate p with
  | .error e => .error e
  | .ok l =>
    match t.node? l with
    | some .directory => .error (.refused .isDirectory p.text)
    | some (.readOnly _) => .error (.refused .notAllowed p.text)
    | some (.file _) => .ok (t.put l (.file octets))
    | none =>
      if t.isLocked l then .error (.refused .notAllowed p.text)
      else .ok (t.put l (.file octets))

/-- The tree without the file. -/
def unlink (t : Tree) (p : Path) : Except Error Tree :=
  match t.locate p with
  | .error e => .error e
  | .ok l =>
    match t.node? l with
    | none => .error (.refused .notFound p.text)
    | some n =>
      if t.isLocked l then .error (.refused .notAllowed p.text)
      else if n = .directory then .error (.refused .isDirectory p.text)
      else .ok (t.remove l)

/-! ## Directories -/

/-- The tree with a new directory. -/
def makeDirectory (t : Tree) (p : Path) : Except Error Tree :=
  match t.locate p with
  | .error e => .error e
  | .ok l =>
    match t.node? l with
    | some _ => .error (.refused .alreadyThere p.text)
    | none =>
      if t.isLocked l then .error (.refused .notAllowed p.text)
      else .ok (t.put l .directory)

/-- What is left of an error when a directory may be there already. -/
def forgiven (t : Tree) (p : Path) (e : Error) : Option Error :=
  match e with
  | .noPath _ => some e
  | .refused .. => if t.isDirectory p matches .ok true then none else some e

/-- Makes the directory and those above it that are missing.  The names of the
path are given from the last to the first.  What was made stays when a later one
cannot be. -/
def makeDirectoriesAt (t : Tree) (root : String) : List String → Tree × Option Error
  | [] =>
    let p : Path := { root, names := [] }
    match t.makeDirectory p with
    | .ok t' => (t', none)
    | .error e => (t, t.forgiven p e)
  | name :: above =>
    let p : Path := { root, names := (name :: above).reverse }
    match t.makeDirectory p with
    | .ok t' => (t', none)
    | .error (.refused .notFound _) =>
      match t.makeDirectoriesAt root above with
      | (t', some e) => (t', some e)
      | (t', none) =>
        match t'.makeDirectory p with
        | .ok t'' => (t'', none)
        | .error (.refused .notFound path) => (t', some (.refused .notFound path))
        | .error e => (t', t'.forgiven p e)
    | .error e => (t, t.forgiven p e)

/-- Makes the directory and those above it that are missing. -/
def makeDirectories (t : Tree) (p : Path) : Tree × Option Error :=
  t.makeDirectoriesAt p.root p.names.reverse

/-! ## Contents -/

/-- The names below `home` that lead to a location, if it lies there. -/
def below? (home l : Location) : Option Location :=
  if home.isPrefixOf l && home ≠ l then some (l.drop home.length) else none

/-- What stands below the directory where paths start. -/
def contents (t : Tree) : List (Path × Node) :=
  t.nodes.filterMap fun m => (below? t.home m.1).map fun names => ({ root := "", names }, m.2)

/-- What stands below that directory and was not there in the same way before. -/
def changes (before after : Tree) : List (Path × Node) :=
  after.contents.filter fun m => before.node? (before.home ++ m.1.names) ≠ some m.2

/-- What to do to make one tree of another. -/
def edits (before after : Tree) : List Edit :=
  ((after.nodes.filter fun m => before.node? m.1 ≠ some m.2).map fun m =>
    match m.2 with
    | .directory => .makeDirectory m.1
    | .file octets | .readOnly octets => .write m.1 octets) ++
  (before.nodes.filter fun m => after.node? m.1 = none).map fun m => .remove m.1

/-- A tree with an empty directory to start from. -/
def empty : Tree := { home := ["home"], nodes := [(["home"], .directory)] }

end Tree

end ResourceSymbols.Files
