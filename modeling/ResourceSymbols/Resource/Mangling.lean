import ResourceSymbols.Text.Cut

/-!
# Mangled names

A table may hold entries of other packages.  The name of such an entry is
mangled: its package of origin, a separator, and its plain name.

## Main results

* `unmangle?_eq_some_iff` — what a mangled name comes apart into.
* `isMangled_iff` — the mangled names are those that come apart.
-/

namespace ResourceSymbols.Resource

/-- What stands between the package of origin and the plain name. -/
def separator : Char := '$'

/-- The name of an entry that comes from another package. -/
def mangle (origin plain : String) : String := origin ++ separator.toString ++ plain

/-- The two parts of a mangled name. -/
structure Unmangled where
  plain : String
  origin : String
deriving DecidableEq, Repr

/-- Takes a mangled name apart at its first separator. -/
def unmangle? (name : String) : Option Unmangled :=
  (Text.cutText separator name).map fun p => { plain := p.2, origin := p.1 }

/-- Whether the name is mangled. -/
def isMangled (name : String) : Bool := name.toList.contains separator

theorem unmangle?_eq_some_iff {name : String} {u : Unmangled} :
    unmangle? name = some u ↔ name = mangle u.origin u.plain ∧ separator ∉ u.origin.toList := by
  obtain ⟨plain, origin⟩ := u
  simp only [unmangle?, Option.map_eq_some_iff, Unmangled.mk.injEq, Prod.exists]
  constructor
  · rintro ⟨l, r, h, rfl, rfl⟩
    exact (Text.cutText_eq_some_iff_append rfl).1 h
  · intro h
    exact ⟨origin, plain, (Text.cutText_eq_some_iff_append rfl).2 h, rfl, rfl⟩

theorem isMangled_iff {name : String} : isMangled name = true ↔ (unmangle? name).isSome := by
  simp only [isMangled, unmangle?, Option.isSome_map]
  cases h : Text.cutText separator name with
  | none => simpa using Text.cutText_eq_none_iff.1 h
  | some p =>
    obtain ⟨l, r⟩ := p
    simp [(Text.cutText_eq_some_iff.1 h).1]

end ResourceSymbols.Resource
