import ResourceSymbols.RClass.Output
import ResourceSymbols.Resource.Edit

/-!
# The workbench

A table under edit, the settings, a generator and files.  A generator works on the
table that lay on the workbench when it was made, with all edits made to it since,
but its style is decided when it is made.
-/

namespace ResourceSymbols

open Resource (Table)

/-- A generator.  It follows the edits of the table on the workbench, until that
table is put away and the generator keeps it. -/
structure Generator where
  style : RClass.Style
  /-- The table that was put away. -/
  kept : Option Table := none

/-- What lies on the workbench. -/
structure Workbench where
  table : Table
  settings : Option Settings := none
  generator : Option Generator := none
  tree : Files.Tree := .empty

namespace Workbench

/-- Puts another table on the workbench. -/
def putTable (w : Workbench) (t : Table) : Workbench :=
  { w with
    table := t
    generator := w.generator.map fun g => { g with kept := some (g.kept.getD w.table) } }

/-- Edits the table on the workbench. -/
def edit (w : Workbench) (t : Table) : Workbench := { w with table := t }

/-- Makes a generator with the style that the settings ask for now. -/
def makeGenerator (w : Workbench) : Workbench :=
  { w with generator := some { style := RClass.styleOf (w.settings.getD {}) } }

/-- Generates the class of a target with a generator; a guarded generation reports
interruptions as results. -/
def generate (w : Workbench) (g : Generator) (guarded : Bool) (target : Json.Value)
    (sink : RClass.Sink) : RClass.Generation :=
  let t := g.kept.getD w.table
  if guarded then RClass.generateGuarded g.style t target sink
  else RClass.generate g.style t target sink

/-- Generates the class of a target into a file. -/
def write (w : Workbench) (root : Files.Path) (asked : Json.Value) :
    Workbench × RClass.Writing :=
  let written := RClass.toFile w.table root asked (w.settings.getD {}) w.tree
  ({ w with tree := written.tree }, written)

end Workbench

end ResourceSymbols
