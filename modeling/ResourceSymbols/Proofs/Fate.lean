import ResourceSymbols.Proofs.Ownership
import ResourceSymbols.Proofs.WellFormed
import ResourceSymbols.RClass.Declaration

/-!
# What becomes of an entry

An entry is skipped, declared, or offends.  Here each of the three is told by the
table alone, first for any table and then for a well-formed one.

## Main results

* `fate_of_id` — what becomes of an entry with an assigned identifier.
* `fate_eq_ok` — an entry that does not offend is skipped or declared.
* `fate_of_wellFormed` — in a well-formed table only a reserved name
  offends.
-/

namespace ResourceSymbols.RClass

open Resource (Attribute Entry Group Id Kind Name Table)

/-! ## Identifiers -/

private theorem below?_eq_some_iff {n : Nat} {value : Int} {a : Fin n} :
    Id.below? n value = some a ↔ value = (a.val : Int) := by
  unfold Id.below?
  split
  · rename_i hRange
    rw [Option.some.injEq, Fin.ext_iff]
    show value.toNat = a.val ↔ _
    omega
  · rename_i hRange
    have := a.isLt
    simp only [reduceCtorEq, false_iff]
    omega

/-- Parts make an identifier exactly when they are its parts. -/
theorem ofParts_eq_ok_iff {package type entry : Int} {id : Id} :
    Id.ofParts package type entry = .ok id ↔
      package = (id.package.val : Int) ∧ type = (id.type.val : Int) ∧
        entry = (id.entry.val : Int) := by
  obtain ⟨p, t, e⟩ := id
  simp only [← below?_eq_some_iff]
  unfold Id.ofParts
  split <;> simp_all

/-- Parts in their ranges make an identifier. -/
theorem exists_ofParts {package type entry : Int}
    (hPackage : 0 ≤ package ∧ package < 0x100) (hType : 0 ≤ type ∧ type < 0x100)
    (hEntry : 0 ≤ entry ∧ entry < 0x10000) :
    ∃ id, Id.ofParts package type entry = .ok id := by
  refine ⟨⟨⟨package.toNat, by omega⟩, ⟨type.toNat, by omega⟩,
    ⟨entry.toNat, by omega⟩⟩, ?_⟩
  rw [ofParts_eq_ok_iff]
  show package = (package.toNat : Int) ∧ type = (type.toNat : Int) ∧
    entry = (entry.toNat : Int)
  omega

/-- The packed form of three parts. -/
def packed (package type entry : Int) : Int :=
  package * 0x1000000 + type * 0x10000 + entry

theorem number_of_ofParts {package type entry : Int} {id : Id}
    (hId : Id.ofParts package type entry = .ok id) :
    (id.number : Int) = packed package type entry := by
  obtain ⟨rfl, rfl, rfl⟩ := ofParts_eq_ok_iff.1 hId
  rw [Id.number, packed]
  omega

/-- Every entry of a well-formed table has an assigned identifier. -/
theorem exists_id_of_wellFormed {t : Table} (hTable : t.WellFormed)
    {g : Group} (hg : g ∈ t.groups) {e : Entry} (he : e ∈ g.entries) :
    ∃ id, Id.ofParts t.number g.number e.number = .ok id ∧
      id.isAssigned = true := by
  have hGroup := hTable.groups g hg
  have hEntry := hGroup.entries e he
  have hPackage := hTable.pos
  have hPackage' := hTable.le
  have hType := hGroup.pos
  have hType' := hGroup.le
  have hNumber := hEntry.nonneg
  have hNumber' := hEntry.le
  have hInPackage : 0 ≤ t.number ∧ t.number < 0x100 := by omega
  have hInType : 0 ≤ g.number ∧ g.number < 0x100 := by omega
  have hInEntry : 0 ≤ e.number ∧ e.number < 0x10000 := by omega
  obtain ⟨id, hId⟩ := exists_ofParts hInPackage hInType hInEntry
  obtain ⟨hp, ht, -⟩ := ofParts_eq_ok_iff.1 hId
  refine ⟨id, hId, ?_⟩
  simp only [Id.isAssigned, Bool.and_eq_true, decide_eq_true_eq]
  omega

/-! ## What is declared -/

/-- The attributes pass their check when each is assigned and complete. -/
theorem checkAttributes_eq_ok_iff {owner : String} {attributes : List Attribute} :
    checkAttributes owner attributes = .ok () ↔
      ∀ a ∈ attributes, a.id.isAssigned = true ∧ a.name.isComplete = true := by
  induction attributes with
  | nil => simp [checkAttributes]
  | cons a as ih =>
      unfold checkAttributes
      by_cases hId : a.id.isAssigned = true
      · by_cases hName : a.name.isComplete = true
        · simp [hId, hName, ih]
        · simp [hId, hName]
      · simp [hId]

/-- What is declared for an entry that does not offend. -/
def declaration (kind : Kind) (id : Id) (name : String) :
    List Resource.Value → Fate
  | .styleable attributes :: _ =>
      if kind = .styleable then .array name (arrange attributes)
      else .constant name id
  | _ => if kind = .styleable then .silent name else .constant name id

/-- Outside groups of styleables, what an entry holds does not matter. -/
theorem declaration_of_ne {kind : Kind} (hKind : kind ≠ .styleable) (id : Id)
    (name : String) (values : List Resource.Value) :
    declaration kind id name values = .constant name id := by
  unfold declaration
  split <;> rw [if_neg hKind]

theorem declaration_ne_skipped (kind : Kind) (id : Id) (name : String)
    (values : List Resource.Value) :
    declaration kind id name values ≠ .skipped := by
  unfold declaration
  by_cases hKind : kind = .styleable
  · simp only [if_pos hKind]
    split <;> simp
  · simp only [if_neg hKind]
    split <;> simp

theorem eq_declaration_of_declare {kind : Kind} {id : Id} {name : String}
    {values : List Resource.Value} {f : Fate}
    (hDeclare : declare kind id name values = .ok f) :
    f = declaration kind id name values := by
  unfold declare at hDeclare
  by_cases hKind : kind = .styleable
  · simp only [if_pos hKind] at hDeclare
    split at hDeclare
    · cases hDeclare
    · obtain ⟨_, _, rfl⟩ := Outcome.map_eq_ok_iff.1 hDeclare
      simp [declaration, hKind]
    · obtain rfl := Except.ok.inj hDeclare
      simp [declaration, hKind]
  · rw [if_neg hKind, Except.ok.injEq] at hDeclare
    rw [declaration_of_ne hKind, hDeclare]

theorem declare_of_wellFormed {kind : Kind} {e : Entry}
    (hEntry : e.WellFormed kind) (id : Id) (name : String) :
    declare kind id name e.values = .ok (declaration kind id name e.values) := by
  unfold declare
  by_cases hKind : kind = .styleable
  · simp only [if_pos hKind]
    cases hValues : e.values with
    | nil => exact absurd hValues (hEntry.holds hKind)
    | cons held more =>
        cases held with
        | item data => simp [declaration, hKind]
        | styleable attributes =>
            have hAll := hEntry.values (.styleable attributes) (by simp [hValues])
            have hCheck : checkAttributes name attributes = .ok () :=
              checkAttributes_eq_ok_iff.2 fun a ha =>
                ⟨(hAll a ha).assigned, (hAll a ha).complete⟩
            simp [declaration, hKind, hCheck, Except.map]
  · rw [if_neg hKind, declaration_of_ne hKind]

/-! ## What becomes of an entry -/

section

variable {t : Table} {package : String} {g : Group} {e : Entry} {id : Id}

/-- Once the identifier of an entry is settled, it is skipped unless it belongs
to the package, offends by a reserved name, or is declared. -/
theorem fate_of_id (hId : Id.ofParts t.number g.number e.number = .ok id)
    (hAssigned : id.isAssigned = true) :
    fate t (some package) g e =
      if e.origin t.package = package then
        if Symbol.isReserved e.plainName then
          .error (.reserved ⟨package, g.kind, e.plainName⟩)
        else declare g.kind id e.plainName e.values
      else .ok .skipped := by
  unfold fate
  simp only [hId, hAssigned, Bool.not_true, Bool.false_eq_true, if_false, ne_eq,
    Option.some.injEq, ite_not]
  by_cases hOrigin : e.origin t.package = package
  · simp only [hOrigin, if_true]
  · simp only [hOrigin, if_false, if_neg (Ne.symm hOrigin)]

/-- An entry that does not offend has an assigned identifier, and is skipped or
declared. -/
theorem fate_eq_ok {f : Fate} (hFate : fate t (some package) g e = .ok f) :
    ∃ id, Id.ofParts t.number g.number e.number = .ok id ∧
      id.isAssigned = true ∧
      f = if e.origin t.package = package then
        declaration g.kind id e.plainName e.values else .skipped := by
  cases hId : Id.ofParts t.number g.number e.number with
  | error error => simp [fate, hId] at hFate
  | ok id =>
      by_cases hAssigned : id.isAssigned = true
      · refine ⟨id, rfl, hAssigned, ?_⟩
        rw [fate_of_id hId hAssigned] at hFate
        split at hFate
        · split at hFate
          · cases hFate
          · rw [if_pos ‹_›]
            exact eq_declaration_of_declare hFate
        · rw [if_neg ‹_›]
          exact (Except.ok.inj hFate).symm
      · simp [fate, hId, hAssigned] at hFate

/-- The entry belongs to the package, under a name that is reserved. -/
def Clashes (own package : String) (e : Entry) : Prop :=
  ∃ plain, e.BelongsTo own package plain ∧ plain ∈ Symbol.reservedWords

theorem clashes_iff :
    Clashes t.package package e ↔
      e.origin t.package = package ∧ Symbol.isReserved e.plainName = true := by
  simp only [Clashes, Entry.belongsTo_iff, Symbol.isReserved,
    List.contains_iff_mem]
  constructor
  · rintro ⟨plain, ⟨hOrigin, rfl⟩, hReserved⟩
    exact ⟨hOrigin, hReserved⟩
  · rintro ⟨hOrigin, hReserved⟩
    exact ⟨_, ⟨hOrigin, rfl⟩, hReserved⟩

instance : Decidable (Clashes t.package package e) :=
  decidable_of_iff _ clashes_iff.symm

variable (package) in
/-- In a well-formed table an entry offends by a reserved name only. -/
theorem fate_of_wellFormed (hTable : t.WellFormed) (hg : g ∈ t.groups)
    (he : e ∈ g.entries) :
    ∃ id, Id.ofParts t.number g.number e.number = .ok id ∧
      fate t (some package) g e =
        if Clashes t.package package e then
          .error (.reserved ⟨package, g.kind, e.plainName⟩)
        else if e.origin t.package = package then
          .ok (declaration g.kind id e.plainName e.values)
        else .ok .skipped := by
  obtain ⟨id, hId, hAssigned⟩ := exists_id_of_wellFormed hTable hg he
  refine ⟨id, hId, ?_⟩
  have hDeclare := declare_of_wellFormed ((hTable.groups g hg).entries e he) id
    e.plainName
  rw [fate_of_id hId hAssigned, hDeclare]
  by_cases hOrigin : e.origin t.package = package
  · by_cases hReserved : Symbol.isReserved e.plainName = true
    · simp [clashes_iff, hOrigin, hReserved]
    · simp [clashes_iff, hOrigin, hReserved]
  · simp [clashes_iff, hOrigin]

end

end ResourceSymbols.RClass
