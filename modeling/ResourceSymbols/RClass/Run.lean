import ResourceSymbols.RClass.Layout

/-!
# Writing a class

A run is what is written until it ends or an entry offends: the pieces in order,
a tally of the entries, and the offence.  Runs are joined in order, and nothing
follows an offence.

## Main results

* `andThen_assoc`, `done_andThen` — joining runs.
* `pieces_andThen` — the text of two runs.
-/

namespace ResourceSymbols.RClass

open Resource (Entry Group Table)

/-- How many entries gave a constant, gave an array, and were skipped. -/
structure Tally where
  constants : Nat := 0
  styleables : Nat := 0
  skipped : Nat := 0
deriving DecidableEq, Repr

/-- The tallies taken together. -/
def Tally.add (a b : Tally) : Tally :=
  { constants := a.constants + b.constants
    styleables := a.styleables + b.styleables
    skipped := a.skipped + b.skipped }

/-- What an entry adds to the tally. -/
def Fate.tally : Fate → Tally
  | skipped => { skipped := 1 }
  | constant .. => { constants := 1 }
  | array .. => { styleables := 1 }
  | silent _ => {}

/-- What was written, and why no more was. -/
structure Run where
  /-- What was written, piece by piece. -/
  pieces : List String := []
  tally : Tally := {}
  /-- The styleables that hold no attributes, each after how many pieces it comes. -/
  silent : List (Nat × String) := []
  /-- The offence of the entry that the run stopped at. -/
  offence : Option Offence := none
deriving DecidableEq, Repr

namespace Run

/-- A run that writes nothing. -/
def done : Run := {}

/-- A run that writes the pieces. -/
def writing (pieces : List String) : Run := { pieces }

/-- A run that stops at an offence before it writes anything. -/
def stopped (o : Offence) : Run := { offence := some o }

/-- A run, and after it another one unless an entry offended. -/
def andThen (a b : Run) : Run :=
  match a.offence with
  | some _ => a
  | none =>
    { pieces := a.pieces ++ b.pieces
      tally := a.tally.add b.tally
      silent := a.silent ++ b.silent.map fun s => (a.pieces.length + s.1, s.2)
      offence := b.offence }

theorem done_andThen (a : Run) : done.andThen a = a := by
  simp [andThen, done, Tally.add]

theorem andThen_assoc (a b c : Run) : (a.andThen b).andThen c = a.andThen (b.andThen c) := by
  obtain ⟨ap, at', as, ao⟩ := a
  obtain ⟨bp, bt, bs, bo⟩ := b
  cases ao <;> cases bo <;>
    simp [andThen, Tally.add, Nat.add_assoc, Function.comp_def]

theorem pieces_andThen {a : Run} (h : a.offence = none) (b : Run) :
    (a.andThen b).pieces = a.pieces ++ b.pieces := by
  simp [andThen, h]

end Run

/-- The run over one entry. -/
def Fate.run (style : Style) (own : String) (f : Fate) : Run :=
  { pieces := f.pieces style own
    tally := f.tally
    silent := match f with
      | silent name => [(0, name)]
      | _ => [] }

/-- The run over the entries of a group. -/
def runEntries (style : Style) (t : Table) (package : Option String) (g : Group) :
    List Entry → Run
  | [] => .done
  | e :: es =>
    match fate t package g e with
    | .error o => .stopped o
    | .ok f => (f.run style t.package).andThen (runEntries style t package g es)

/-- The run over a group. -/
def runGroup (style : Style) (t : Table) (package : Option String) (g : Group) : Run :=
  (Run.writing [groupOpeningText g.kind.tag]).andThen
    ((runEntries style t package g g.entries).andThen (.writing [groupClosingText]))

/-- The run over the groups. -/
def runGroups (style : Style) (t : Table) (package : Option String) : List Group → Run
  | [] => .done
  | g :: gs => (runGroup style t package g).andThen (runGroups style t package gs)

/-- The run over a table.  `label` is the text of the package in the header. -/
def run (style : Style) (t : Table) (package : Option String) (label : String) : Run :=
  (Run.writing [headerText label, openingText]).andThen
    ((runGroups style t package t.groups).andThen (.writing [closingText]))

end ResourceSymbols.RClass
