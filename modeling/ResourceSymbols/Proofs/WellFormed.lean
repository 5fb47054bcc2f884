import ResourceSymbols.Proofs.Description
import ResourceSymbols.Proofs.NameParts

/-!
# Well-formed tables

What the reader of documents promises about its tables.  A table that is built by
hand need not keep to it.

## Main results

* `wellFormed_of_ofDocument` — a table that was read is well formed.
-/

namespace ResourceSymbols.Resource

open Document Outcome

/-- The attribute has an assigned identifier and a complete name, and its package
holds no colon. -/
structure Attribute.WellFormed (a : Attribute) : Prop where
  assigned : a.id.isAssigned = true
  complete : a.name.isComplete = true
  noColon : ':' ∉ a.name.package.toList

/-- Attributes are well formed, and no item is an object with `styleable`. -/
def Value.WellFormed : Value → Prop
  | .item data => ∀ members, data = .object members →
      Json.Members.get? members "styleable" = none
  | .styleable attributes => ∀ a ∈ attributes, a.WellFormed

/-- The entry of a group of the kind is named, fits its identifier and, in a group
of styleables, holds something. -/
structure Entry.WellFormed (kind : Kind) (e : Entry) : Prop where
  named : e.name ≠ ""
  nonneg : 0 ≤ e.number
  le : e.number ≤ 0xFFFF
  holds : kind = .styleable → e.values ≠ []
  values : ∀ held ∈ e.values, held.WellFormed

/-- The number of the group is assigned and fits, and its entries are well
formed. -/
structure Group.WellFormed (g : Group) : Prop where
  pos : 1 ≤ g.number
  le : g.number ≤ 0xFF
  entries : ∀ e ∈ g.entries, e.WellFormed g.kind

/-- The table is named, its number is assigned and fits, and it has one
well-formed group of a kind at most. -/
structure Table.WellFormed (t : Table) : Prop where
  named : t.package ≠ ""
  pos : 1 ≤ t.number
  le : t.number ≤ 0xFF
  kinds : (t.groups.map Group.kind).Nodup
  groups : ∀ g ∈ t.groups, g.WellFormed

/-- The identifier with parts that fit. -/
def Id.ofWords (package type : UInt8) (entry : UInt16) : Id :=
  ⟨package.toFin, type.toFin, entry.toFin⟩

/-! ## What was read is well formed -/

theorem Attribute.wellFormed_of_describes {v : Json.Value} {a : Attribute}
    (h : DescribesAttribute v a) : a.WellFormed := by
  obtain ⟨_, _, _, _, _, _, _, hAssigned, hParse, hComplete⟩ := h
  exact
    { assigned := hAssigned
      complete := hComplete
      noColon := (Name.parse_eq_ok_iff.1 hParse).noColon }

theorem Value.wellFormed_of_describes {v : Json.Value} {held : Value}
    (h : DescribesValue v held) : held.WellFormed := by
  cases held with
  | item data =>
      obtain ⟨rfl, hNone⟩ := h
      exact hNone
  | styleable attributes =>
      obtain ⟨_, _, _, _, hAll⟩ := h
      intro a ha
      obtain ⟨_, _, hDescribes⟩ := exists_of_mem_right hAll ha
      exact Attribute.wellFormed_of_describes hDescribes

theorem Entry.wellFormed_of_describes {kind : Kind} {v : Json.Value} {e : Entry}
    (h : DescribesEntry kind v e) : e.WellFormed kind := by
  obtain ⟨_, _, raw, _, _, hNamed, _, _, hLow, hHigh, _, hSome, hValues⟩ := h
  refine
    { named := hNamed
      nonneg := hLow
      le := hHigh
      holds := ?_
      values := ?_ }
  · intro hKind hNil
    rw [hNil, List.forall₂_nil_right_iff] at hValues
    exact hSome hKind hValues
  · intro held hHeld
    obtain ⟨_, _, hDescribes⟩ := exists_of_mem_right hValues hHeld
    exact Value.wellFormed_of_describes hDescribes

theorem Group.wellFormed_of_describes {v : Json.Value} {g : Group}
    (h : DescribesGroup v g) : g.WellFormed := by
  obtain ⟨_, _, _, _, _, _, _, hLow, hHigh, _, hEntries⟩ := h
  refine { pos := hLow, le := hHigh, entries := ?_ }
  intro e he
  obtain ⟨_, _, hDescribes⟩ := exists_of_mem_right hEntries he
  exact Entry.wellFormed_of_describes hDescribes

/-- Every check that the reader of documents makes has left its mark. -/
theorem Table.wellFormed_of_ofDocument {v : Json.Value} {t : Table}
    (hRead : Table.ofDocument v = .ok t) : t.WellFormed := by
  obtain ⟨_, _, _, _, _, hNamed, _, _, hLow, hHigh, _, hGroups, hKinds⟩ :=
    ofDocument_eq_ok_iff.1 hRead
  refine
    { named := hNamed, pos := hLow, le := hHigh, kinds := hKinds, groups := ?_ }
  intro g hg
  obtain ⟨_, _, hDescribes⟩ := exists_of_mem_right hGroups hg
  exact Group.wellFormed_of_describes hDescribes

end ResourceSymbols.Resource
