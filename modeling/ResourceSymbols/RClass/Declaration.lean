import ResourceSymbols.Resource.Table
import ResourceSymbols.Symbol.Reserved
import ResourceSymbols.Symbol.Word

/-!
# Declarations

The class of a package declares a constant for each of its entries, and for an
entry that holds attributes an array of their identifiers with a constant for the
index of each.  Entries of other packages are skipped.

An entry whose identifier is no assigned one, whose name is reserved, or whose
attributes are not complete offends, and nothing is declared for it.
-/

namespace ResourceSymbols.RClass

open Resource (Attribute Entry Group Id Kind Name Table)

/-- Why nothing can be declared for an entry. -/
inductive Offence
  /-- A part of the identifier is out of range. -/
  | outOfRange (error : Id.RangeError)
  /-- The package or the type is not assigned. -/
  | unassigned (id : Id) (kind : Kind) (name : String)
  /-- The plain name is a reserved word. -/
  | reserved (name : Name)
  /-- A styleable has no values. -/
  | noValues (name : String)
  /-- The identifier of an attribute is not assigned. -/
  | attributeId (owner : String)
  /-- The name of an attribute is not complete. -/
  | attributeName (owner : String)
deriving DecidableEq, Repr

namespace Offence

/-- The offence in words. -/
def message : Offence → String
  | outOfRange error => error.message
  | unassigned id kind name => s!"invalid id {id.text} for {kind.tag}/{name}"
  | reserved name => s!"invalid symbol name '{name.text}'"
  | noValues name => s!"styleable {name} has no values"
  | attributeId owner => s!"no ID set for Styleable entry in {owner}"
  | attributeName owner => s!"no name set for Styleable entry in {owner}"

/-- Whether the offence is a mistake of whoever built the table. -/
def isMistake : Offence → Bool
  | unassigned .. | noValues _ | attributeId _ | attributeName _ => true
  | outOfRange _ | reserved _ => false

end Offence

/-- What becomes of an entry. -/
inductive Fate
  /-- It belongs to another package. -/
  | skipped
  /-- A constant with the identifier of the entry. -/
  | constant (name : String) (id : Id)
  /-- An array of the identifiers of the attributes and a constant for each index.
  -/
  | array (name : String) (attributes : List Attribute)
  /-- A styleable that holds no attributes. -/
  | silent (name : String)
deriving DecidableEq, Repr

/-- The first attribute that is not complete offends. -/
def checkAttributes (owner : String) : List Attribute → Except Offence Unit
  | [] => .ok ()
  | a :: as =>
    if !a.id.isAssigned then .error (.attributeId owner)
    else if !a.name.isComplete then .error (.attributeName owner)
    else checkAttributes owner as

/-- Whether `a` stands before `b` in an array, or may: by identifier, and by name
where the identifiers are equal. -/
def attributeLe (a b : Attribute) : Bool :=
  a.id.before b.id || (!b.id.before a.id && decide (a.name.text ≤ b.name.text))

/-- The attributes in the order of their array. -/
def arrange (attributes : List Attribute) : List Attribute := attributes.mergeSort attributeLe

/-- What is declared for an entry of the package under way. -/
def declare (kind : Kind) (id : Id) (name : String) (values : List Resource.Value) :
    Except Offence Fate :=
  if kind = .styleable then
    match values with
    | [] => .error (.noValues name)
    | .styleable attributes :: _ =>
      (checkAttributes name attributes).map fun _ => .array name (arrange attributes)
    | .item _ :: _ => .ok (.silent name)
  else .ok (.constant name id)

/-- What becomes of an entry of a table in the class of `package`.  A target that
is no text is the package of no entry. -/
def fate (t : Table) (package : Option String) (g : Group) (e : Entry) : Except Offence Fate :=
  match Id.ofParts t.number g.number e.number with
  | .error error => .error (.outOfRange error)
  | .ok id =>
    if !id.isAssigned then .error (.unassigned id g.kind e.name)
    else if package ≠ some (e.origin t.package) then .ok .skipped
    else if Symbol.isReserved e.plainName then
      .error (.reserved { package := e.origin t.package, kind := g.kind, entry := e.plainName })
    else declare g.kind id e.plainName e.values

end ResourceSymbols.RClass
