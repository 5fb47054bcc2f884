import ResourceSymbols.Resource.Kind
import ResourceSymbols.Text.Cut

/-!
# Resource names

The full name of a resource is its package, its kind and its entry name, written
`package:kind/entry`.
-/

namespace ResourceSymbols.Resource

/-- The full name of a resource. -/
structure Name where
  package : String
  kind : Kind
  entry : String
deriving DecidableEq, Repr

namespace Name

/-- Why a text is no full name. -/
inductive Fault
  /-- There is no colon. -/
  | noPackage (text : String)
  /-- What stands between the colon and the slash is no tag of a kind. -/
  | unknownKind (tag text : String)
deriving DecidableEq, Repr

/-- The fault in words. -/
def Fault.message : Fault → String
  | noPackage text => s!"resource name has no package: '{text}'"
  | unknownKind tag text => s!"unknown resource type '{tag}' in '{text}'"

/-- Reads `package:kind/entry`.  In `package:entry` the kind is left out and is
the default. -/
def parse (default : Kind) (text : String) : Except Fault Name :=
  match Text.cutText ':' text with
  | none => .error (.noPackage text)
  | some (package, rest) =>
    match Text.cutText '/' rest with
    | none => .ok ⟨package, default, rest⟩
    | some (tag, entry) =>
      match Kind.ofTag? tag with
      | none => .error (.unknownKind tag text)
      | some kind => .ok ⟨package, kind, entry⟩

/-- Whether the package and the entry are given. -/
def isComplete (n : Name) : Bool := !n.package.isEmpty && !n.entry.isEmpty

/-- The full name as text.  An empty package is left out. -/
def text (n : Name) : String :=
  if n.package.isEmpty then s!"{n.kind.tag}/{n.entry}"
  else s!"{n.package}:{n.kind.tag}/{n.entry}"

end Name

end ResourceSymbols.Resource
