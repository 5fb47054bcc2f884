import ResourceSymbols.Json.Members
import ResourceSymbols.Json.Misuse
import ResourceSymbols.Number.Literal
import ResourceSymbols.Resource.Table

/-!
# Table documents

A table is read from a JSON document:

* an object with `package`, `id` and `types`,
* each type an object with `type`, `id` and `entries`,
* each entry an object with `name`, `id` and `values`,
* each value an object with a list `styleable` of attributes, each with `id` and
  `name`, or anything else.

Identifiers are integers or texts that are integer literals.  The first fault in
the order of the document is reported.
-/

namespace ResourceSymbols.Resource

namespace Document

/-! ## Faults -/

/-- An entry, as messages name it. -/
structure Owner where
  kind : Kind
  name : String
deriving DecidableEq, Repr

/-- The owner in words. -/
def Owner.describe (o : Owner) : String := s!"{o.kind.tag}/{o.name}"

/-- The attribute of that number in a styleable of an entry. -/
structure Slot where
  owner : Owner
  index : Nat
deriving DecidableEq, Repr

/-- The slot in words. -/
def Slot.describe (s : Slot) : String := s!"{s.owner.describe}: attribute {s.index}"

/-- A place in a document where a number or a name has to stand. -/
inductive Site
  | package
  | packageId
  | typeId (kind : Kind)
  | entryName (kind : Kind)
  | entryId (owner : Owner)
  | attributeId (slot : Slot)
  | attributeName (slot : Slot)
deriving DecidableEq, Repr

/-- The site in words. -/
def Site.describe : Site → String
  | package => "package"
  | packageId => "package id"
  | typeId kind => s!"{kind.tag} type id"
  | entryName kind => s!"{kind.tag} entry name"
  | entryId owner => s!"{owner.describe} id"
  | attributeId slot => s!"{slot.describe} id"
  | attributeName slot => s!"{slot.describe} name"

/-- Why a document describes no table. -/
inductive Fault
  | notAnObject
  | missing (key : String)
  | notAnInteger (site : Site) (value : Json.Value)
  | outOfRange (site : Site) (low high : Nat) (value : Int)
  | notAName (site : Site) (value : Json.Value)
  | incompleteType
  | unknownKind (tag : Json.Value)
  | repeatedKind (kind : Kind)
  | entryNotAnObject (kind : Kind)
  | incompleteEntry (kind : Kind)
  | valuesNotAList (owner : Owner)
  | noValues (owner : Owner)
  | attributesNotAList (owner : Owner)
  | incompleteAttribute (slot : Slot)
  | attributeOutOfRange (slot : Slot) (error : Id.RangeError)
  | attributeUnshown (slot : Slot)
  | attributeUnassigned (slot : Slot) (id : Id)
  | attributeName (fault : Name.Fault)
  | incompleteAttributeName (slot : Slot) (text : String)

/-- The fault in words, if the values that it names can be shown. -/
def Fault.message? : Fault → Option String
  | notAnObject => some "table document must be a JSON object"
  | missing key => some s!"table document is missing '{key}'"
  | notAnInteger site value =>
    value.literal?.map fun t => s!"{site.describe} must be an integer, got {t}"
  | outOfRange site low high value =>
    (Number.decimal? value).map fun n =>
      s!"{site.describe} must be in 0x{Text.hex low}..0x{Text.hex high}, got {n}"
  | notAName site value =>
    value.literal?.map fun t => s!"{site.describe} must be a non-empty string, got {t}"
  | incompleteType => some "each type needs 'type' and 'id'"
  | unknownKind tag => tag.shown?.map fun t => s!"unknown resource type '{t}'"
  | repeatedKind kind => some s!"duplicate resource type '{kind.tag}'"
  | entryNotAnObject kind => some s!"{kind.tag}: entry must be an object"
  | incompleteEntry kind => some s!"{kind.tag}: entry needs 'name' and 'id'"
  | valuesNotAList owner => some s!"{owner.describe}: 'values' must be a list"
  | noValues owner => some s!"{owner.describe}: styleable entry has no values"
  | attributesNotAList owner => some s!"{owner.describe}: 'styleable' must be a list"
  | incompleteAttribute slot => some s!"{slot.describe} needs 'id' and 'name'"
  | attributeOutOfRange slot error => some s!"{slot.describe}: {error.message}"
  | attributeUnshown slot => some s!"{slot.describe}: {Number.digitLimitText}"
  | attributeUnassigned slot id => some s!"{slot.describe}: {id.text} has no package or type id"
  | attributeName fault => some fault.message
  | incompleteAttributeName slot text =>
    some s!"{slot.describe}: incomplete attribute name '{text}'"

/-- Why no table was read. -/
inductive Error
  /-- The document describes no table. -/
  | malformed (fault : Fault)
  /-- A value is not of the kind that it is used as, or cannot be shown. -/
  | misuse (m : Json.Misuse)

/-- The error in words. -/
def Error.message : Error → String
  | malformed fault => fault.message?.getD Number.digitLimitText
  | misuse m => m.message

/-- Reports the fault, or that it cannot be shown. -/
def refuse {α : Type} (fault : Fault) : Except Error α :=
  if fault.message?.isSome then .error (.malformed fault) else .error (.misuse .digitLimit)

/-- The items of a value that is gone through. -/
def items (v : Json.Value) : Except Error (List Json.Value) :=
  match v.items with
  | .ok vs => .ok vs
  | .error m => .error (.misuse m)

/-! ## Numbers and names -/

/-- An integer, or a text that is an integer literal. -/
def integer? : Json.Value → Option Int
  | .int n => some n
  | .text s => Number.Literal.int? s
  | _ => none

/-- An integer from `low` to `high`. -/
def readNumber (site : Site) (low high : Nat) (v : Json.Value) : Except Error Int :=
  match integer? v with
  | none => refuse (.notAnInteger site v)
  | some n => if low ≤ n ∧ n ≤ high then .ok n else refuse (.outOfRange site low high n)

/-- A text that is not empty. -/
def readName (site : Site) (v : Json.Value) : Except Error String :=
  match v with
  | .text s => if s.isEmpty then refuse (.notAName site v) else .ok s
  | _ => refuse (.notAName site v)

/-! ## Entries -/

/-- The identifier of an attribute. -/
def readAttributeId (slot : Slot) (v : Json.Value) : Except Error Id :=
  match integer? v with
  | none =>
    let fault := Fault.notAnInteger (.attributeId slot) v
    if fault.message?.isSome then .error (.malformed fault)
    else .error (.malformed (.attributeUnshown slot))
  | some n =>
    match Id.ofNumber n with
    | .error e => .error (.malformed (.attributeOutOfRange slot e))
    | .ok id =>
      if id.isAssigned then .ok id else .error (.malformed (.attributeUnassigned slot id))

/-- The name of an attribute. -/
def readAttributeName (slot : Slot) (v : Json.Value) : Except Error Name := do
  let text ← readName (.attributeName slot) v
  match Name.parse .attr text with
  | .error fault => .error (.malformed (.attributeName fault))
  | .ok n =>
    if n.isComplete then .ok n else .error (.malformed (.incompleteAttributeName slot text))

/-- An attribute of a styleable. -/
def readAttribute (slot : Slot) (v : Json.Value) : Except Error Attribute :=
  match v with
  | .object members =>
    match Json.Members.get? members "id", Json.Members.get? members "name" with
    | some id, some name => do
      let id ← readAttributeId slot id
      let name ← readAttributeName slot name
      return { id, name }
    | _, _ => .error (.malformed (.incompleteAttribute slot))
  | _ => .error (.malformed (.incompleteAttribute slot))

/-- The attributes of a styleable, `index` being the number of the first. -/
def readAttributes (owner : Owner) (index : Nat) :
    List Json.Value → Except Error (List Attribute)
  | [] => .ok []
  | v :: vs => do
    let a ← readAttribute { owner, index } v
    let rest ← readAttributes owner (index + 1) vs
    return a :: rest

/-- A value of an entry. -/
def readValue (owner : Owner) (v : Json.Value) : Except Error Value :=
  match v with
  | .object members =>
    match Json.Members.get? members "styleable" with
    | none => .ok (.item v)
    | some (.list attributes) => (readAttributes owner 0 attributes).map .styleable
    | some _ => .error (.malformed (.attributesNotAList owner))
  | _ => .ok (.item v)

/-- The values of an entry. -/
def readValues (owner : Owner) (v : Json.Value) : Except Error (List Value) :=
  match v with
  | .list vs =>
    if owner.kind = .styleable ∧ vs = [] then .error (.malformed (.noValues owner))
    else vs.mapM (readValue owner)
  | _ => .error (.malformed (.valuesNotAList owner))

/-- An entry. -/
def readEntry (kind : Kind) (v : Json.Value) : Except Error Entry :=
  match v with
  | .object members =>
    match Json.Members.get? members "name", Json.Members.get? members "id" with
    | some rawName, some rawId => do
      let text ← readName (.entryName kind) rawName
      let owner : Owner := { kind, name := text }
      let number ← readNumber (.entryId owner) 0 0xFFFF rawId
      let held ← readValues owner ((Json.Members.get? members "values").getD (.list []))
      return { name := text, number, values := held }
    | _, _ => .error (.malformed (.incompleteEntry kind))
  | _ => .error (.malformed (.entryNotAnObject kind))

/-! ## Groups -/

/-- The kind that a tag names. -/
def readKind (tag : Json.Value) : Except Error Kind :=
  match tag.text?.bind Kind.ofTag? with
  | some k => .ok k
  | none => refuse (.unknownKind tag)

/-- The entries of one kind, none of the kinds in `seen`. -/
def readGroup (seen : List Kind) (v : Json.Value) : Except Error Group :=
  match v with
  | .object members =>
    match Json.Members.get? members "type", Json.Members.get? members "id" with
    | some tag, some rawId => do
      let k ← readKind tag
      if k ∈ seen then .error (.malformed (.repeatedKind k))
      else
        let number ← readNumber (.typeId k) 1 0xFF rawId
        let raw ← items ((Json.Members.get? members "entries").getD (.list []))
        let entries ← raw.mapM (readEntry k)
        return { kind := k, number, entries }
    | _, _ => .error (.malformed .incompleteType)
  | _ => .error (.malformed .incompleteType)

/-- The groups, none of the kinds in `seen` and each of a kind of its own. -/
def readGroups (seen : List Kind) : List Json.Value → Except Error (List Group)
  | [] => .ok []
  | v :: vs => do
    let g ← readGroup seen v
    let gs ← readGroups (g.kind :: seen) vs
    return g :: gs

end Document

open Document in
/-- The table that a document describes. -/
def Table.ofDocument (v : Json.Value) : Except Error Table :=
  match v with
  | .object members =>
    match Json.Members.get? members "package", Json.Members.get? members "id" with
    | none, _ => .error (.malformed (.missing "package"))
    | _, none => .error (.malformed (.missing "id"))
    | some rawPackage, some rawId => do
      let package ← readName .package rawPackage
      let number ← readNumber .packageId 1 0xFF rawId
      let raw ← items ((Json.Members.get? members "types").getD (.list []))
      let gs ← readGroups [] raw
      return { package, number, groups := gs }
  | _ => .error (.malformed .notAnObject)

end ResourceSymbols.Resource
