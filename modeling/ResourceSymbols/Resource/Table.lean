import ResourceSymbols.Json.Value
import ResourceSymbols.Resource.Id
import ResourceSymbols.Resource.Mangling
import ResourceSymbols.Resource.Name

/-!
# Resource tables

A table holds the resources of a package, grouped by kind.  An entry of the kind
`styleable` holds attributes; what other values hold is not looked into.
-/

namespace ResourceSymbols.Resource

/-- An attribute that a styleable refers to. -/
structure Attribute where
  id : Id
  name : Name
deriving DecidableEq, Repr

/-- What an entry holds. -/
inductive Value
  /-- Anything but attributes. -/
  | item (data : Json.Value)
  /-- Attributes, in no particular order. -/
  | styleable (attributes : List Attribute)
deriving Repr

/-- A resource.  Its number is the entry part of its identifier. -/
structure Entry where
  /-- The name, which may be mangled. -/
  name : String
  number : Int
  values : List Value
deriving Repr

/-- The resources of one kind.  The number is the type part of their
identifiers. -/
structure Group where
  kind : Kind
  number : Int
  entries : List Entry
deriving Repr

/-- The resources of a package.  The number is the package part of their
identifiers. -/
structure Table where
  package : String
  number : Int
  groups : List Group
deriving Repr

/-- The first entry with the given name. -/
def Group.find? (g : Group) (name : String) : Option Entry :=
  g.entries.find? fun e => e.name = name

/-- The package that the entry comes from, in a table of the package `own`: a mangled
name says it, and an entry with any other name is the table's own. -/
def Entry.origin (own : String) (e : Entry) : String :=
  match unmangle? e.name with
  | some u => u.origin
  | none => own

/-- The name of the entry without its package of origin. -/
def Entry.plainName (e : Entry) : String :=
  match unmangle? e.name with
  | some u => u.plain
  | none => e.name

namespace Table

/-- The first group of the given kind. -/
def find? (t : Table) (kind : Kind) : Option Group := t.groups.find? fun g => g.kind = kind

/-- The number of entries in all groups. -/
def entryCount (t : Table) : Nat := (t.groups.flatMap Group.entries).length

end Table

end ResourceSymbols.Resource
