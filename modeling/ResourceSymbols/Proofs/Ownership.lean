import ResourceSymbols.Resource.Packages

/-!
# Which package an entry belongs to

The package of an entry is read off its name.  Here it is said without taking the
name apart, and shown to be what the parts of the name say.

## Main results

* `belongsTo_iff` — the package and the plain name are the origin and the plain
  name that are computed.
* `Entry.origin_mem_packages` — a table lists the packages that its entries belong to.
* `packages_eq_cons` — the own package comes first, and the rest ascends.
-/

namespace ResourceSymbols.Resource

/-- In a table of the package `own`, the entry belongs to `package` and is called
`plain` there: its name is mangled from the two, or it is not mangled and the
package is the own one. -/
def Entry.BelongsTo (own package plain : String) (e : Entry) : Prop :=
  (e.name = mangle package plain ∧ separator ∉ package.toList) ∨
    (e.name = plain ∧ separator ∉ plain.toList ∧ package = own)

theorem unmangle?_eq_none_iff {name : String} :
    unmangle? name = none ↔ separator ∉ name.toList := by
  rw [unmangle?, Option.map_eq_none_iff, Text.cutText_eq_none_iff]

/-- A mangled name holds the separator. -/
theorem separator_mem_mangle (origin plain : String) :
    separator ∈ (mangle origin plain).toList := by
  simp [mangle]

theorem Entry.belongsTo_iff {own package plain : String} {e : Entry} :
    e.BelongsTo own package plain ↔
      e.origin own = package ∧ e.plainName = plain := by
  unfold Entry.BelongsTo Entry.origin Entry.plainName
  cases hName : unmangle? e.name with
  | none =>
      have hPlain := unmangle?_eq_none_iff.1 hName
      constructor
      · rintro (⟨hMangled, -⟩ | ⟨rfl, -, rfl⟩)
        · exact absurd (hMangled ▸ separator_mem_mangle package plain) hPlain
        · exact ⟨rfl, rfl⟩
      · rintro ⟨rfl, rfl⟩
        exact .inr ⟨rfl, hPlain, rfl⟩
  | some u =>
      have hMangled := unmangle?_eq_some_iff.1 hName
      constructor
      · rintro (⟨hMangled', hOrigin⟩ | ⟨rfl, hPlain, -⟩)
        · have hSame : unmangle? e.name = some ⟨plain, package⟩ :=
            unmangle?_eq_some_iff.2 ⟨hMangled', hOrigin⟩
          obtain rfl := Option.some.inj (hName.symm.trans hSame)
          exact ⟨rfl, rfl⟩
        · exact absurd (hMangled.1 ▸ separator_mem_mangle _ _) hPlain
      · rintro ⟨rfl, rfl⟩
        exact .inl hMangled

/-- The package of every entry is listed. -/
theorem Entry.origin_mem_packages {t : Table} {g : Group} {e : Entry}
    (hg : g ∈ t.groups) (he : e ∈ g.entries) :
    e.origin t.package ∈ t.packages := by
  rw [mem_packages]
  unfold Entry.origin
  cases hName : unmangle? e.name with
  | none => exact .inl rfl
  | some u =>
      refine .inr (List.mem_filterMap.2 ⟨e, ?_, by simp [hName]⟩)
      exact List.mem_flatMap.2 ⟨g, hg, he⟩

/-- The own package comes first, and the others after it in ascending order. -/
theorem Table.packages_eq_cons (t : Table) :
    ∃ others, t.packages = t.package :: others ∧
      others.Pairwise (· < ·) ∧ t.package ∉ others := by
  refine ⟨_, rfl, pairwise_packages_tail t, ?_⟩
  rw [mem_foldr_insertAscending, List.mem_filter]
  simp

theorem Table.nodup_packages (t : Table) : t.packages.Nodup := by
  obtain ⟨others, hCons, hAscending, hOwn⟩ := t.packages_eq_cons
  rw [hCons, List.nodup_cons]
  refine ⟨hOwn, hAscending.imp ?_⟩
  rintro p q hLt rfl
  exact String.lt_irrefl p hLt

end ResourceSymbols.Resource
