import ResourceSymbols.Proofs.Partition

/-!
# Where a class breaks off

An entry may offend whatever the table is, for tables that are built by hand keep
to nothing.  The class is written to its end exactly when no entry offends.
Otherwise it breaks off at the first entry that does: the entries before it are
written and counted in full, and nothing of it or after it.

## Main results

* `offence?_eq_some_iff` — an entry offends by the first of its faults.
* `offends_iff` — the entries that offend, without the order of the checks.
* `run_eq_stopped` — a run is what its place covers, and then a stop.
* `generate_breaks_off` — when a class is complete, and what is left of one that
  is not.
-/

namespace ResourceSymbols.RClass

open Resource (Attribute Entry Group Id Kind Name Table)
open ResourceSymbols.Symbol (Template)

/-! ## Faults of an identifier -/

/-- The number is one of the first `n`. -/
def Fits (n : Nat) (value : Int) : Prop := 0 ≤ value ∧ value < n

theorem below?_eq_none_iff {n : Nat} {value : Int} :
    Id.below? n value = none ↔ ¬ Fits n value := by
  unfold Id.below? Fits
  split
  · rename_i hRange
    simp [hRange]
  · rename_i hRange
    simp only [true_iff]
    exact hRange

/-- The first part that does not fit is reported. -/
theorem ofParts_eq_error_iff {package type entry : Int} {error : Id.RangeError} :
    Id.ofParts package type entry = .error error ↔
      (¬ Fits 0x100 package ∧ error = ⟨.package, package⟩) ∨
      (Fits 0x100 package ∧ ¬ Fits 0x100 type ∧ error = ⟨.type, type⟩) ∨
      (Fits 0x100 package ∧ Fits 0x100 type ∧ ¬ Fits 0x10000 entry ∧
        error = ⟨.entry, entry⟩) := by
  have hPackage : Id.below? 0x100 package = none ↔ _ := below?_eq_none_iff
  have hType : Id.below? 0x100 type = none ↔ _ := below?_eq_none_iff
  have hEntry : Id.below? 0x10000 entry = none ↔ _ := below?_eq_none_iff
  unfold Id.ofParts
  cases hp : Id.below? 0x100 package with
  | none => simp_all [eq_comm]
  | some p =>
      cases ht : Id.below? 0x100 type with
      | none => simp_all [eq_comm]
      | some ty =>
          cases he : Id.below? 0x10000 entry with
          | none => simp_all [eq_comm]
          | some en => simp_all

/-! ## Entries that offend -/

/-- The attribute has an assigned identifier and a complete name. -/
def IsSound (a : Attribute) : Prop := a.id.isAssigned = true ∧ a.name.isComplete = true

/-- An array cannot be declared for the values. -/
def Unfit : List Resource.Value → Prop
  | [] => True
  | .styleable attributes :: _ => ∃ a ∈ attributes, ¬ IsSound a
  | .item _ :: _ => False

section

variable (t : Table) (package : String) (g : Group) (e : Entry)

/-- The parts of the identifier fit, and its package and its type are not zero. -/
structure Identified : Prop where
  package : Fits 0x100 t.number
  type : Fits 0x100 g.number
  entry : Fits 0x10000 e.number
  package_ne : t.number ≠ 0
  type_ne : g.number ≠ 0

/-- The entry offends in the class of the package: its identifier is none, or the
package has it under a reserved name or as a styleable without an array. -/
def Offends : Prop :=
  ¬ Identified t g e ∨ ∃ plain, e.BelongsTo t.package package plain ∧
    (plain ∈ Symbol.reservedWords ∨ (g.kind = .styleable ∧ Unfit e.values))

/-- The package has the entry as a styleable with a name that it may have. -/
structure IsStyleable (plain : String) : Prop where
  identified : Identified t g e
  owner : e.BelongsTo t.package package plain
  free : plain ∉ Symbol.reservedWords
  kind : g.kind = .styleable

/-- The entry offends, and the offence tells the first of its faults. -/
inductive OffendsBy : Offence → Prop
  | package (hPackage : ¬ Fits 0x100 t.number) :
      OffendsBy (.outOfRange ⟨.package, t.number⟩)
  | type (hPackage : Fits 0x100 t.number) (hType : ¬ Fits 0x100 g.number) :
      OffendsBy (.outOfRange ⟨.type, g.number⟩)
  | entry (hPackage : Fits 0x100 t.number) (hType : Fits 0x100 g.number)
      (hEntry : ¬ Fits 0x10000 e.number) :
      OffendsBy (.outOfRange ⟨.entry, e.number⟩)
  | unassigned {id : Id} (hEntry : Fits 0x10000 e.number)
      (hPackage : t.number = (id.package.val : Int))
      (hType : g.number = (id.type.val : Int))
      (hNumber : e.number = (id.entry.val : Int))
      (hZero : t.number = 0 ∨ g.number = 0) :
      OffendsBy (.unassigned id g.kind e.name)
  | reserved {plain : String} (hId : Identified t g e)
      (hOwner : e.BelongsTo t.package package plain)
      (hWord : plain ∈ Symbol.reservedWords) :
      OffendsBy (.reserved ⟨package, g.kind, plain⟩)
  | noValues {plain : String} (hStyleable : IsStyleable t package g e plain)
      (hValues : e.values = []) : OffendsBy (.noValues plain)
  | attributeId {plain : String} {before after : List Attribute} {a : Attribute}
      {more : List Resource.Value} (hStyleable : IsStyleable t package g e plain)
      (hValues : e.values = .styleable (before ++ a :: after) :: more)
      (hBefore : ∀ b ∈ before, IsSound b) (hId : a.id.isAssigned = false) :
      OffendsBy (.attributeId plain)
  | attributeName {plain : String} {before after : List Attribute} {a : Attribute}
      {more : List Resource.Value} (hStyleable : IsStyleable t package g e plain)
      (hValues : e.values = .styleable (before ++ a :: after) :: more)
      (hBefore : ∀ b ∈ before, IsSound b) (hId : a.id.isAssigned = true)
      (hName : a.name.isComplete = false) : OffendsBy (.attributeName plain)

end

/-! ## The checks find the first fault -/

/-- The check of attributes stops at the first that is not sound. -/
theorem checkAttributes_eq_error_iff {owner : String} {attributes : List Attribute}
    {o : Offence} :
    checkAttributes owner attributes = .error o ↔
      ∃ before a after, attributes = before ++ a :: after ∧
        (∀ b ∈ before, IsSound b) ∧
        ((a.id.isAssigned = false ∧ o = .attributeId owner) ∨
          (a.id.isAssigned = true ∧ a.name.isComplete = false ∧
            o = .attributeName owner)) := by
  induction attributes with
  | nil => simp [checkAttributes]
  | cons a as ih =>
      unfold checkAttributes
      constructor
      · intro hError
        by_cases hId : a.id.isAssigned = true
        · by_cases hName : a.name.isComplete = true
          · simp only [hId, hName, Bool.not_true, Bool.false_eq_true, if_false] at hError
            obtain ⟨before, b, after, rfl, hBefore, hFault⟩ := ih.1 hError
            refine ⟨a :: before, b, after, rfl, ?_, hFault⟩
            rw [List.forall_mem_cons]
            exact ⟨⟨hId, hName⟩, hBefore⟩
          · simp only [hId, hName, Bool.not_true, Bool.not_false, Bool.false_eq_true,
              if_false, if_true, Except.error.injEq] at hError
            exact ⟨[], a, as, rfl, by simp, .inr ⟨hId, by simpa using hName, hError.symm⟩⟩
        · simp only [hId, Bool.not_false, if_true, Except.error.injEq] at hError
          exact ⟨[], a, as, rfl, by simp, .inl ⟨by simpa using hId, hError.symm⟩⟩
      · rintro ⟨before, b, after, hSplit, hBefore, hFault⟩
        cases before with
        | nil =>
            obtain ⟨rfl, -⟩ := List.cons.inj hSplit
            rcases hFault with ⟨hId, rfl⟩ | ⟨hId, hName, rfl⟩
            · simp [hId]
            · simp [hId, hName]
        | cons c before =>
            obtain ⟨rfl, rfl⟩ := List.cons.inj hSplit
            rw [List.forall_mem_cons] at hBefore
            obtain ⟨⟨hId, hName⟩, hBefore⟩ := hBefore
            simp only [hId, hName, Bool.not_true, Bool.false_eq_true, if_false]
            exact ih.2 ⟨before, b, after, rfl, hBefore, hFault⟩

theorem declare_eq_error_iff {kind : Kind} {id : Id} {name : String}
    {values : List Resource.Value} {o : Offence} :
    declare kind id name values = .error o ↔
      kind = .styleable ∧ ((values = [] ∧ o = .noValues name) ∨
        ∃ attributes more, values = .styleable attributes :: more ∧
          checkAttributes name attributes = .error o) := by
  unfold declare
  by_cases hKind : kind = .styleable
  · simp only [hKind, if_true, true_and]
    cases values with
    | nil =>
        simp only [Except.error.injEq, true_and, reduceCtorEq, false_and,
          exists_false, or_false]
        exact eq_comm
    | cons held more =>
        cases held with
        | item data => simp
        | styleable attributes =>
            cases hCheck : checkAttributes name attributes with
            | error fault => simp [Except.map, hCheck]
            | ok u => simp [Except.map, hCheck]
  · simp [hKind]

section

variable {t : Table} {package : String} {g : Group} {e : Entry}

/-- The parts make an assigned identifier exactly when the entry has one. -/
theorem identified_iff :
    Identified t g e ↔ ∃ id, Id.ofParts t.number g.number e.number = .ok id ∧
      id.isAssigned = true := by
  constructor
  · intro hId
    obtain ⟨id, hParts⟩ := exists_ofParts hId.package hId.type hId.entry
    refine ⟨id, hParts, ?_⟩
    obtain ⟨hPackage, hType, -⟩ := ofParts_eq_ok_iff.1 hParts
    have hPackage' := hId.package_ne
    have hType' := hId.type_ne
    simp only [Id.isAssigned, Bool.and_eq_true, decide_eq_true_eq]
    omega
  · rintro ⟨id, hParts, hAssigned⟩
    obtain ⟨hPackage, hType, hEntry⟩ := ofParts_eq_ok_iff.1 hParts
    have := id.package.isLt
    have := id.type.isLt
    have := id.entry.isLt
    simp only [Id.isAssigned, Bool.and_eq_true, decide_eq_true_eq] at hAssigned
    exact
      { package := ⟨by omega, by omega⟩
        type := ⟨by omega, by omega⟩
        entry := ⟨by omega, by omega⟩
        package_ne := by omega
        type_ne := by omega }

/-- A styleable that is no other fault's is up to what it holds. -/
theorem fate_of_isStyleable {plain : String}
    (hStyleable : IsStyleable t package g e plain) :
    ∃ id, fate t (some package) g e = declare g.kind id plain e.values := by
  obtain ⟨id, hParts, hAssigned⟩ := identified_iff.1 hStyleable.identified
  obtain ⟨hOrigin, rfl⟩ := Entry.belongsTo_iff.1 hStyleable.owner
  refine ⟨id, ?_⟩
  rw [fate_of_id hParts hAssigned, if_pos hOrigin, if_neg]
  exact fun hReserved => hStyleable.free (List.contains_iff_mem.1 hReserved)

theorem fate_of_offendsBy {o : Offence} (hBy : OffendsBy t package g e o) :
    fate t (some package) g e = .error o := by
  have hHeld : ∀ {plain attributes more}, IsStyleable t package g e plain →
      e.values = .styleable attributes :: more →
      checkAttributes plain attributes = .error o →
      fate t (some package) g e = .error o := by
    intro plain attributes more hStyleable hValues hCheck
    obtain ⟨id, hFate⟩ := fate_of_isStyleable hStyleable
    rw [hFate, declare_eq_error_iff]
    exact ⟨hStyleable.kind, .inr ⟨attributes, more, hValues, hCheck⟩⟩
  cases hBy with
  | package hp =>
      have hParts : Id.ofParts t.number g.number e.number = .error _ :=
        ofParts_eq_error_iff.2 (.inl ⟨hp, rfl⟩)
      simp [fate, hParts]
  | type hp ht =>
      have hParts : Id.ofParts t.number g.number e.number = .error _ :=
        ofParts_eq_error_iff.2 (.inr (.inl ⟨hp, ht, rfl⟩))
      simp [fate, hParts]
  | entry hp ht he =>
      have hParts : Id.ofParts t.number g.number e.number = .error _ :=
        ofParts_eq_error_iff.2 (.inr (.inr ⟨hp, ht, he, rfl⟩))
      simp [fate, hParts]
  | unassigned hEntry hp ht he hZero =>
      have hParts := ofParts_eq_ok_iff.2 ⟨hp, ht, he⟩
      rename_i id
      have hAssigned : id.isAssigned = false := by
        rw [← Bool.not_eq_true]
        simp only [Id.isAssigned, Bool.and_eq_true, decide_eq_true_eq]
        omega
      simp [fate, hParts, hAssigned]
  | reserved hId hOwner hWord =>
      obtain ⟨id, hParts, hAssigned⟩ := identified_iff.1 hId
      obtain ⟨hOrigin, rfl⟩ := Entry.belongsTo_iff.1 hOwner
      rw [fate_of_id hParts hAssigned, if_pos hOrigin, if_pos]
      exact List.contains_iff_mem.2 hWord
  | noValues hStyleable hNil =>
      obtain ⟨id, hFate⟩ := fate_of_isStyleable hStyleable
      rw [hFate, declare_eq_error_iff]
      exact ⟨hStyleable.kind, .inl ⟨hNil, rfl⟩⟩
  | attributeId hStyleable hValues hBefore hBad =>
      exact hHeld hStyleable hValues
        (checkAttributes_eq_error_iff.2 ⟨_, _, _, rfl, hBefore, .inl ⟨hBad, rfl⟩⟩)
  | attributeName hStyleable hValues hBefore hGood hBad =>
      exact hHeld hStyleable hValues
        (checkAttributes_eq_error_iff.2 ⟨_, _, _, rfl, hBefore, .inr ⟨hGood, hBad, rfl⟩⟩)

theorem offendsBy_of_fate {o : Offence} (hFate : fate t (some package) g e = .error o) :
    OffendsBy t package g e o := by
  cases hParts : Id.ofParts t.number g.number e.number with
  | error error =>
      obtain rfl : Offence.outOfRange error = o := by simpa [fate, hParts] using hFate
      rcases ofParts_eq_error_iff.1 hParts with ⟨hp, rfl⟩ | ⟨hp, ht, rfl⟩ | ⟨hp, ht, he, rfl⟩
      · exact .package hp
      · exact .type hp ht
      · exact .entry hp ht he
  | ok id =>
      obtain ⟨hPackage, hType, hEntry⟩ := ofParts_eq_ok_iff.1 hParts
      by_cases hAssigned : id.isAssigned = true
      · have hId := identified_iff.2 ⟨id, hParts, hAssigned⟩
        rw [fate_of_id hParts hAssigned] at hFate
        split at hFate
        · rename_i hOrigin
          have hOwner : e.BelongsTo t.package package e.plainName :=
            Entry.belongsTo_iff.2 ⟨hOrigin, rfl⟩
          split at hFate
          · rename_i hReserved
            obtain rfl := Except.error.inj hFate
            exact .reserved hId hOwner (List.contains_iff_mem.1 hReserved)
          · rename_i hFree
            obtain ⟨hKind, hValues⟩ := declare_eq_error_iff.1 hFate
            have hStyleable : IsStyleable t package g e e.plainName :=
              { identified := hId
                owner := hOwner
                free := fun hWord => hFree (List.contains_iff_mem.2 hWord)
                kind := hKind }
            rcases hValues with ⟨hNil, rfl⟩ | ⟨attributes, more, hValues, hCheck⟩
            · exact .noValues hStyleable hNil
            · obtain ⟨before, a, after, rfl, hBefore, hFault⟩ :=
                checkAttributes_eq_error_iff.1 hCheck
              rcases hFault with ⟨hBad, rfl⟩ | ⟨hGood, hBad, rfl⟩
              · exact .attributeId hStyleable hValues hBefore hBad
              · exact .attributeName hStyleable hValues hBefore hGood hBad
        · cases hFate
      · obtain rfl : Offence.unassigned id g.kind e.name = o := by
          simpa [fate, hParts, hAssigned] using hFate
        have hZero : t.number = 0 ∨ g.number = 0 := by
          simp only [Id.isAssigned, Bool.and_eq_true, decide_eq_true_eq] at hAssigned
          omega
        have := id.entry.isLt
        exact .unassigned ⟨by omega, by omega⟩ hPackage hType hEntry hZero

/-- An entry offends by the first of its faults. -/
theorem offence?_eq_some_iff {o : Offence} :
    offence? t (some package) g e = some o ↔ OffendsBy t package g e o := by
  have hOffence : offence? t (some package) g e = some o ↔
      fate t (some package) g e = .error o := by
    unfold offence?
    cases fate t (some package) g e <;> simp
  rw [hOffence]
  exact ⟨offendsBy_of_fate, fate_of_offendsBy⟩

/-- An entry without an identifier has a first part that is at fault. -/
theorem exists_offendsBy_of_not_identified (hId : ¬ Identified t g e) :
    ∃ o, OffendsBy t package g e o := by
  by_cases hp : Fits 0x100 t.number
  · by_cases ht : Fits 0x100 g.number
    · by_cases he : Fits 0x10000 e.number
      · obtain ⟨id, hParts⟩ := exists_ofParts hp ht he
        obtain ⟨hPackage, hType, hEntry⟩ := ofParts_eq_ok_iff.1 hParts
        have hZero : t.number = 0 ∨ g.number = 0 := by
          by_contra hNone
          rw [not_or] at hNone
          exact hId ⟨hp, ht, he, hNone.1, hNone.2⟩
        exact ⟨_, .unassigned he hPackage hType hEntry hZero⟩
      · exact ⟨_, .entry hp ht he⟩
    · exact ⟨_, .type hp ht⟩
  · exact ⟨_, .package hp⟩

/-- A styleable without an array holds nothing, or has a first attribute that is not
sound. -/
theorem exists_offendsBy_of_unfit {plain : String}
    (hStyleable : IsStyleable t package g e plain) (hUnfit : Unfit e.values) :
    ∃ o, OffendsBy t package g e o := by
  unfold Unfit at hUnfit
  split at hUnfit
  · rename_i hNil
    exact ⟨_, .noValues hStyleable hNil⟩
  · rename_i attributes more hValues
    cases hCheck : checkAttributes plain attributes with
    | error o =>
        obtain ⟨before, a, after, rfl, hBefore, hFault⟩ :=
          checkAttributes_eq_error_iff.1 hCheck
        rcases hFault with ⟨hBad, -⟩ | ⟨hGood, hBad, -⟩
        · exact ⟨_, .attributeId hStyleable hValues hBefore hBad⟩
        · exact ⟨_, .attributeName hStyleable hValues hBefore hGood hBad⟩
    | ok u =>
        obtain ⟨a, ha, hBad⟩ := hUnfit
        exact absurd (checkAttributes_eq_ok_iff.1 hCheck a ha) hBad
  · exact hUnfit.elim

/-- The entries that offend are those that have a first fault. -/
theorem offends_iff : Offends t package g e ↔ ∃ o, OffendsBy t package g e o := by
  constructor
  · intro hOffends
    by_cases hId : Identified t g e
    · obtain ⟨plain, hOwner, hFault⟩ := hOffends.resolve_left (not_not_intro hId)
      by_cases hWord : plain ∈ Symbol.reservedWords
      · exact ⟨_, .reserved hId hOwner hWord⟩
      · obtain ⟨hKind, hUnfit⟩ := hFault.resolve_left hWord
        exact exists_offendsBy_of_unfit ⟨hId, hOwner, hWord, hKind⟩ hUnfit
    · exact exists_offendsBy_of_not_identified hId
  · have hUnsound : ∀ {before after : List Attribute} {a : Attribute}
        {more : List Resource.Value}, e.values = .styleable (before ++ a :: after) :: more →
        ¬ IsSound a → Unfit e.values := by
      intro before after a more hValues hBad
      rw [hValues]
      exact ⟨a, List.mem_append_right _ List.mem_cons_self, hBad⟩
    rintro ⟨o, hBy⟩
    cases hBy with
    | package hp => exact .inl fun hId => hp hId.package
    | type _ ht => exact .inl fun hId => ht hId.type
    | entry _ _ he => exact .inl fun hId => he hId.entry
    | unassigned _ _ _ _ hZero =>
        exact .inl fun hId => hZero.elim hId.package_ne hId.type_ne
    | reserved _ hOwner hWord => exact .inr ⟨_, hOwner, .inl hWord⟩
    | noValues hStyleable hNil =>
        exact .inr ⟨_, hStyleable.owner, .inr ⟨hStyleable.kind, by simp [hNil, Unfit]⟩⟩
    | attributeId hStyleable hValues _ hBad =>
        exact .inr ⟨_, hStyleable.owner, .inr ⟨hStyleable.kind,
          hUnsound hValues fun hSound => by simp [hSound.1] at hBad⟩⟩
    | attributeName hStyleable hValues _ _ hBad =>
        exact .inr ⟨_, hStyleable.owner, .inr ⟨hStyleable.kind,
          hUnsound hValues fun hSound => by simp [hSound.2] at hBad⟩⟩

theorem offence?_eq_none_iff :
    offence? t (some package) g e = none ↔ ¬ Offends t package g e := by
  rw [offends_iff, Option.eq_none_iff_forall_ne_some]
  simp only [ne_eq, offence?_eq_some_iff, not_exists]

end

/-! ## What is written and counted for entries -/

/-- What is counted for entries, each with its group. -/
def tallyOf (t : Table) (package : String) (es : List (Group × Entry)) : Tally :=
  { constants := es.countP fun x =>
      decide (x.2.origin t.package = package) && givesConstant x.1 x.2
    styleables := es.countP fun x =>
      decide (x.2.origin t.package = package) && givesArray x.1 x.2
    skipped := es.countP fun x => decide (x.2.origin t.package ≠ package) }

/-- The run does not stop, and it writes the text and counts the tally. -/
structure Run.Covers (r : Run) (text : String) (tally : Tally) : Prop where
  offence : r.offence = none
  text : String.join r.pieces = text
  tally : r.tally = tally

theorem Run.Covers.andThen {a b : Run} {s s' : String} {u u' : Tally}
    (ha : a.Covers s u) (hb : b.Covers s' u') :
    (a.andThen b).Covers (s ++ s') (u.add u') := by
  refine ⟨?_, ?_, ?_⟩
  · rw [Run.offence_andThen, ha.offence, hb.offence]
    rfl
  · rw [Run.pieces_andThen ha.offence, String.join_append, ha.text, hb.text]
  · rw [← ha.tally, ← hb.tally]
    simp [Run.andThen, ha.offence]

theorem Run.covers_writing (pieces : List String) :
    (Run.writing pieces).Covers (String.join pieces) {} := ⟨rfl, rfl, rfl⟩

theorem Tally.empty_add (a : Tally) : ({} : Tally).add a = a := by
  simp [Tally.add]

theorem Tally.add_empty (a : Tally) : a.add {} = a := by
  simp [Tally.add]

section

variable (style : Style) {t : Table} {package : String}

theorem tallyOf_append (xs ys : List (Group × Entry)) :
    tallyOf t package (xs ++ ys) = (tallyOf t package xs).add (tallyOf t package ys) := by
  simp only [tallyOf, Tally.add, List.countP_append]

/-- What is counted for one entry. -/
theorem tallyOf_singleton (g : Group) (e : Entry) :
    tallyOf t package [(g, e)] =
      if e.origin t.package = package then declarationTally g.kind e
      else { skipped := 1 } := by
  by_cases hOrigin : e.origin t.package = package
  · by_cases hKind : g.kind = .styleable
    · cases hHolds : holdsAttributes e <;>
        simp [tallyOf, hOrigin, givesConstant, givesArray, declarationTally, hKind, hHolds]
    · simp [tallyOf, hOrigin, givesConstant, givesArray, declarationTally, hKind]
  · simp [tallyOf, hOrigin]

/-- An entry that does not offend is covered by its declaration. -/
theorem covers_runEntry {g : Group} {e : Entry} (hSound : ¬ Offends t package g e) :
    (runEntry style t (some package) g e).Covers (entryText style t package g e)
      (tallyOf t package [(g, e)]) := by
  have hNone := offence?_eq_none_iff.2 hSound
  have hTally : (runEntry style t (some package) g e).tally = tallyOf t package [(g, e)] := by
    rw [tallyOf_singleton]
    cases hFate : fate t (some package) g e with
    | error o => simp [offence?, hFate] at hNone
    | ok f =>
        obtain ⟨id, -, -, rfl⟩ := fate_eq_ok hFate
        rw [runEntry, hFate]
        by_cases hOrigin : e.origin t.package = package
        · simp only [if_pos hOrigin]
          exact tally_declaration g.kind id e
        · simp only [if_neg hOrigin]
          rfl
  exact ⟨(offence_runEntry style t (some package) g e).trans hNone,
    join_pieces_runEntry style hNone, hTally⟩

theorem covers_runEntries {g : Group} {es : List Entry}
    (hSound : ∀ e ∈ es, ¬ Offends t package g e) :
    (Run.all (es.map (runEntry style t (some package) g))).Covers
      (String.join (es.map (entryText style t package g)))
      (tallyOf t package (es.map (Prod.mk g))) := by
  induction es with
  | nil => exact ⟨rfl, rfl, rfl⟩
  | cons e es ih =>
      rw [List.forall_mem_cons] at hSound
      have hHead := covers_runEntry style hSound.1
      have hAll := hHead.andThen (ih hSound.2)
      rw [← tallyOf_append, ← String.join_cons] at hAll
      exact hAll

theorem covers_runGroup {g : Group} (hSound : ∀ e ∈ g.entries, ¬ Offends t package g e) :
    (runGroup style t (some package) g).Covers (groupText style t package g)
      (tallyOf t package (g.entries.map (Prod.mk g))) := by
  have hEntries := covers_runEntries style hSound
  have hAll := (Run.covers_writing [groupOpeningText g.kind.tag]).andThen
    (hEntries.andThen (Run.covers_writing [groupClosingText]))
  rw [Tally.empty_add, Tally.add_empty, ← String.append_assoc] at hAll
  have hText : groupText style t package g = groupOpeningText g.kind.tag ++
      String.join (g.entries.map (entryText style t package g)) ++ groupClosingText := rfl
  rw [runGroup, runEntries_eq_all, hText]
  simpa only [String.join_cons, String.join_nil, String.append_empty] using hAll

theorem covers_runGroups {gs : List Group}
    (hSound : ∀ g ∈ gs, ∀ e ∈ g.entries, ¬ Offends t package g e) :
    (Run.all (gs.map (runGroup style t (some package)))).Covers
      (String.join (gs.map (groupText style t package)))
      (tallyOf t package (gs.flatMap fun g => g.entries.map (Prod.mk g))) := by
  induction gs with
  | nil => exact ⟨rfl, rfl, rfl⟩
  | cons g gs ih =>
      rw [List.forall_mem_cons] at hSound
      have hHead := covers_runGroup style hSound.1
      have hAll := hHead.andThen (ih hSound.2)
      rw [← tallyOf_append, ← String.join_cons] at hAll
      exact hAll

end

/-! ## Places -/

/-- A place in a table: an entry, and what comes before and after it. -/
structure Place (t : Table) where
  groupsBefore : List Group
  group : Group
  groupsAfter : List Group
  entriesBefore : List Entry
  entry : Entry
  entriesAfter : List Entry
  groups_eq : t.groups = groupsBefore ++ group :: groupsAfter
  entries_eq : group.entries = entriesBefore ++ entry :: entriesAfter

namespace Place

variable {t : Table}

/-- The entries before the place, each with its group. -/
def before (p : Place t) : List (Group × Entry) :=
  (p.groupsBefore.flatMap fun g => g.entries.map (Prod.mk g)) ++
    p.entriesBefore.map (Prod.mk p.group)

/-- The text of a class that breaks off before the entry at the place: the lines of the
header and of the opening, the blocks before, and in the block under way the declarations
before. -/
def text (style : Style) (package : String) (p : Place t) : String :=
  classHeader package ++ "public final class R \x7b\n" ++
    String.join (p.groupsBefore.map (groupText style t package)) ++
    blockOpening p.group.kind.tag ++
    String.join (p.entriesBefore.map (entryText style t package p.group))

/-- What comes of a class that breaks off at the place.  A reserved name is reported
with what was counted until then, and any other offence interrupts. -/
def outcome (package : String) (p : Place t) : Offence → Except Interruption Result
  | .reserved name =>
      .ok (.aborted
        { target := .text package
          tablePackage := t.package
          groupCount := t.groups.length
          tally := tallyOf t package p.before } (.reserved name))
  | o => .error (.offence o)

theorem forall_mem_before (p : Place t) (P : Group → Entry → Prop) :
    (∀ x ∈ p.before, P x.1 x.2) ↔
      (∀ g ∈ p.groupsBefore, ∀ e ∈ g.entries, P g e) ∧
        ∀ e ∈ p.entriesBefore, P p.group e := by
  simp only [before, List.mem_append, or_imp, forall_and, List.forall_mem_flatMap,
    List.forall_mem_map]

/-- The entry that a run stops at has a place, and no entry before it offends. -/
theorem exists_of_offence {style : Style} {package label : String} {o : Offence}
    (hOffence : (run style t (some package) label).offence = some o) :
    ∃ p : Place t, (∀ x ∈ p.before, ¬ Offends t package x.1 x.2) ∧
      OffendsBy t package p.group p.entry o := by
  rw [offence_run] at hOffence
  obtain ⟨gs, g, gs', hGroups, hGroup, hBefore⟩ := List.findSome?_eq_some_iff.1 hOffence
  obtain ⟨es, e, es', hEntries, hEntry, hBefore'⟩ := List.findSome?_eq_some_iff.1 hGroup
  refine ⟨⟨gs, g, gs', es, e, es', hGroups, hEntries⟩, ?_, offence?_eq_some_iff.1 hEntry⟩
  refine (forall_mem_before _ fun g e => ¬ Offends t package g e).2
    ⟨fun h hh d hd => ?_, fun d hd => offence?_eq_none_iff.1 (hBefore' d hd)⟩
  exact offence?_eq_none_iff.1 (List.findSome?_eq_none_iff.1 (hBefore h hh) d hd)

/-- The run over what comes before the place. -/
def runBefore (style : Style) (package : String) (p : Place t) : Run :=
  ((Run.writing [headerText package, openingText]).andThen
    (Run.all (p.groupsBefore.map (runGroup style t (some package))))).andThen
  ((Run.writing [groupOpeningText p.group.kind.tag]).andThen
    (Run.all (p.entriesBefore.map (runEntry style t (some package) p.group))))

/-- Before the first entry that offends, all entries are covered. -/
theorem covers_runBefore (style : Style) {package : String} {p : Place t}
    (hBefore : ∀ x ∈ p.before, ¬ Offends t package x.1 x.2) :
    (p.runBefore style package).Covers (p.text style package)
      (tallyOf t package p.before) := by
  obtain ⟨hGroups, hEntries⟩ :=
    (forall_mem_before p fun g e => ¬ Offends t package g e).1 hBefore
  have hHead := (Run.covers_writing [headerText package, openingText]).andThen
    (covers_runGroups style hGroups)
  have hTail := (Run.covers_writing [groupOpeningText p.group.kind.tag]).andThen
    (covers_runEntries style hEntries)
  have hAll := hHead.andThen hTail
  have hText : p.text style package = headerText package ++ openingText ++
      String.join (p.groupsBefore.map (groupText style t package)) ++
      groupOpeningText p.group.kind.tag ++
      String.join (p.entriesBefore.map (entryText style t package p.group)) := by
    rw [headerText_eq]
    rfl
  rw [Tally.empty_add, Tally.empty_add, ← tallyOf_append] at hAll
  rw [hText]
  simpa only [before, runBefore, String.join_cons, String.join_nil,
    String.append_empty, String.append_assoc] using hAll

/-- A run over the table goes up to an entry that offends, and stops there. -/
theorem run_eq_stopped (style : Style) {package : String} {p : Place t} {o : Offence}
    (hBy : OffendsBy t package p.group p.entry o) :
    run style t (some package) package =
      (p.runBefore style package).andThen (.stopped o) := by
  have hStop : ∀ b : Run, (Run.stopped o).andThen b = .stopped o := fun _ => rfl
  have hEntry : runEntry style t (some package) p.group p.entry = .stopped o := by
    rw [runEntry, fate_of_offendsBy hBy]
  have hAll : ∀ (rs : List Run) (r : Run) (ss : List Run),
      Run.all (rs ++ r :: ss) = (Run.all rs).andThen (r.andThen (Run.all ss)) :=
    fun rs r ss => Run.all_append rs (r :: ss)
  have hGroup : runGroup style t (some package) p.group =
      (Run.writing [groupOpeningText p.group.kind.tag]).andThen
        ((Run.all (p.entriesBefore.map (runEntry style t (some package) p.group))).andThen
          (.stopped o)) := by
    rw [runGroup, runEntries_eq_all, p.entries_eq, List.map_append, List.map_cons, hAll,
      hEntry, hStop, Run.andThen_assoc, hStop]
  rw [run, runGroups_eq_all, p.groups_eq, List.map_append, List.map_cons, hAll, hGroup,
    runBefore]
  simp only [Run.andThen_assoc, hStop]

end Place

/-! ## Classes that break off -/

/-- A class is complete exactly when no entry offends.  Otherwise it breaks off at
the first entry that does, with what stands and counts for the entries before.  The header
and the lines of constants that stand there are filled templates. -/
theorem generate_breaks_off (style : Style) {t : Table} {package : String} {sink : Sink}
    (hSink : sink.TakesAll style t package) :
    ((∃ s, (generate style t (.text package) sink).outcome = .ok (.complete s)) ↔
      ∀ g ∈ t.groups, ∀ e ∈ g.entries, ¬ Offends t package g e) ∧
    ((∃ g ∈ t.groups, ∃ e ∈ g.entries, Offends t package g e) →
      ∃ (p : Place t) (o : Offence),
        (∀ x ∈ p.before, ¬ Offends t package x.1 x.2) ∧
        Offends t package p.group p.entry ∧ OffendsBy t package p.group p.entry o ∧
        (generate style t (.text package) sink).written = p.text style package ∧
        (generate style t (.text package) sink).outcome = p.outcome package o) ∧
    (Template.ofText headerTemplate).fill [("package", .text package)] =
      .ok (classHeader package) ∧
    ∀ name value : String, (Template.ofText constantTemplate).fill
        [("final_modifier", .text (if style.isFinal then " final" else "")),
          ("name", .text name), ("value", .text value)] =
      .ok (constantLine style (Symbol.transform name) value) := by
  have hNone : (run style t (some package) package).offence = none ↔
      ∀ g ∈ t.groups, ∀ e ∈ g.entries, ¬ Offends t package g e := by
    simp only [offence_run_eq_none_iff, offence?_eq_none_iff]
  refine ⟨⟨?_, ?_⟩, ?_, fill_headerTemplate_eq package, fill_constantTemplate_eq style⟩
  · rintro ⟨s, hComplete⟩
    exact hNone.1 (complete_of_outcome hComplete).2.1
  · intro hSound
    rw [outcome_generate hSink, hNone.2 hSound]
    exact ⟨_, rfl⟩
  · rintro ⟨g, hg, e, he, hOffends⟩
    cases hOffence : (run style t (some package) package).offence with
    | none => exact absurd hOffends (hNone.1 hOffence g hg e he)
    | some o =>
        obtain ⟨p, hBefore, hBy⟩ := Place.exists_of_offence hOffence
        have hCovers := Place.covers_runBefore style hBefore
        have hRun := Place.run_eq_stopped style hBy
        refine ⟨p, o, hBefore, offends_iff.2 ⟨o, hBy⟩, hBy, ?_, ?_⟩
        · rw [written_generate hSink, hRun, Run.pieces_andThen hCovers.offence,
            String.join_append, hCovers.text]
          exact String.append_empty
        · have hTally : (run style t (some package) package).tally =
              tallyOf t package p.before := by
            rw [hRun, ← hCovers.tally]
            simp [Run.andThen, hCovers.offence, Run.stopped, Tally.add]
          rw [outcome_generate hSink, hOffence, summaryOf, hTally]
          cases o <;> rfl

/-- A group of styleables in which a reserved name comes after an array. -/
def brokenGroup : Group :=
  ⟨.styleable, 2, [⟨"View", 0, [.styleable [⟨.ofWords 1 1 0, ⟨"android", .attr, "text"⟩⟩]]⟩,
    ⟨"class", 1, []⟩, ⟨"Box", 2, []⟩]⟩

/-- A table with four faults: in the class of its own package the reserved name comes
first, after it a styleable without values, a number that does not fit, and a group
with the number zero. -/
def brokenTable : Table :=
  ⟨"app", 0x7F, [⟨.string, 1, [⟨"title", 0, []⟩, ⟨"lib$class", 0xFFFF, []⟩]⟩, brokenGroup,
    ⟨.layout, 0x100, [⟨"main", 0, []⟩]⟩, ⟨.menu, 0, [⟨"main", -1, []⟩]⟩]⟩

theorem generate_breaks_off_brokenTable :
    Offends brokenTable "app" brokenGroup ⟨"class", 1, []⟩ ∧
      (¬ ∃ s, (generate ⟨true⟩ brokenTable (.text "app") {}).outcome = .ok (.complete s)) ∧
      ∃ (p : Place brokenTable) (o : Offence),
        (∀ x ∈ p.before, ¬ Offends brokenTable "app" x.1 x.2) ∧
        OffendsBy brokenTable "app" p.group p.entry o ∧
        (generate ⟨true⟩ brokenTable (.text "app") {}).written = p.text ⟨true⟩ "app" ∧
        (generate ⟨true⟩ brokenTable (.text "app") {}).outcome = p.outcome "app" o := by
  have hOffends : Offends brokenTable "app" brokenGroup ⟨"class", 1, []⟩ :=
    .inr ⟨"class", .inr ⟨rfl, by decide, rfl⟩, .inl (by decide)⟩
  have hGroup : brokenGroup ∈ brokenTable.groups := by simp [brokenTable]
  have hEntry : (⟨"class", 1, []⟩ : Entry) ∈ brokenGroup.entries := by simp [brokenGroup]
  have hSink : ({} : Sink).TakesAll ⟨true⟩ brokenTable "app" := takesAll_of_unlimited rfl rfl
  obtain ⟨hComplete, hBroken, -⟩ := generate_breaks_off ⟨true⟩ hSink
  obtain ⟨p, o, hBefore, -, hBy, hWritten, hOutcome⟩ :=
    hBroken ⟨brokenGroup, hGroup, _, hEntry, hOffends⟩
  exact ⟨hOffends, fun h => hComplete.1 h _ hGroup _ hEntry hOffends, p, o, hBefore, hBy,
    hWritten, hOutcome⟩

end ResourceSymbols.RClass
