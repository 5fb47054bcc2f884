import ResourceSymbols.Resource.Table

/-!
# Editing tables

A table that is built by hand takes whatever it is given.
-/

namespace ResourceSymbols.Resource

/-- The list with the first member that satisfies `p` replaced, if there is one. -/
def replaceFirst? {α : Type} (p : α → Bool) (f : α → α) : List α → Option (List α)
  | [] => none
  | x :: xs => if p x then some (f x :: xs) else (replaceFirst? p f xs).map (x :: ·)

namespace Table

/-- The table with one more group. -/
def addGroup (t : Table) (g : Group) : Table := { t with groups := t.groups ++ [g] }

/-- The table with one more entry in the first group of the kind, if there is
one. -/
def addEntry? (t : Table) (kind : Kind) (e : Entry) : Option Table :=
  (replaceFirst? (fun g => g.kind = kind)
    (fun g => { g with entries := g.entries ++ [e] }) t.groups).map fun groups =>
      { t with groups }

/-- The entry of that name in the first group of the kind. -/
def findEntry? (t : Table) (kind : Kind) (name : String) : Option Entry :=
  (t.find? kind).bind fun g => g.find? name

/-- The table with the entry of that name in the first group of the kind renamed, if
there is one. -/
def rename? (t : Table) (kind : Kind) (name new : String) : Option Table := do
  let entries ← (t.find? kind).bind fun g =>
    replaceFirst? (fun e => e.name = name) (fun e => { e with name := new }) g.entries
  let groups ← replaceFirst? (fun g => g.kind = kind) (fun g => { g with entries }) t.groups
  return { t with groups }

end Table

end ResourceSymbols.Resource
