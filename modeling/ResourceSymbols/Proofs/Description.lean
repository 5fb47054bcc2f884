import ResourceSymbols.Proofs.Outcome
import ResourceSymbols.Resource.Document

/-!
# The table that a document describes

The reader of documents checks as it goes.  Here is what it accepts, without the
order of its checks and without its messages: a relation between a document and a
table for each level of both.

## Main results

* `readAttribute_eq_ok_iff`, `readValue_eq_ok_iff`, `readEntry_eq_ok_iff`,
  `readGroups_eq_ok_iff` — each reader finds what its relation says.
* `ofDocument_eq_ok_iff` — so does the reader of a whole document.
-/

namespace ResourceSymbols.Resource

namespace Document

open Outcome

/-! ## What describes what -/

/-- The value describes the attribute of a styleable. -/
def DescribesAttribute (v : Json.Value) (a : Attribute) : Prop :=
  ∃ members rawId text, v = .object members ∧
    Json.Members.get? members "id" = some rawId ∧
    Json.Members.get? members "name" = some (.text text) ∧
    integer? rawId = some (a.id.number : Int) ∧ a.id.isAssigned = true ∧
    Name.parse .attr text = .ok a.name ∧ a.name.isComplete = true

/-- The value describes what an entry holds: attributes where it is an object
with `styleable`, and itself otherwise. -/
def DescribesValue (v : Json.Value) : Value → Prop
  | .item data => data = v ∧ ∀ members, v = .object members →
      Json.Members.get? members "styleable" = none
  | .styleable attributes => ∃ members raw, v = .object members ∧
      Json.Members.get? members "styleable" = some (.list raw) ∧
      List.Forall₂ DescribesAttribute raw attributes

/-- The value describes the entry of a group of the kind. -/
def DescribesEntry (kind : Kind) (v : Json.Value) (e : Entry) : Prop :=
  ∃ members rawId raw, v = .object members ∧
    Json.Members.get? members "name" = some (.text e.name) ∧ e.name ≠ "" ∧
    Json.Members.get? members "id" = some rawId ∧
    integer? rawId = some e.number ∧ 0 ≤ e.number ∧ e.number ≤ 0xFFFF ∧
    (Json.Members.get? members "values").getD (.list []) = .list raw ∧
    (kind = .styleable → raw ≠ []) ∧
    List.Forall₂ DescribesValue raw e.values

/-- The value describes the group. -/
def DescribesGroup (v : Json.Value) (g : Group) : Prop :=
  ∃ members rawId raw, v = .object members ∧
    Json.Members.get? members "type" = some (.text g.kind.tag) ∧
    Json.Members.get? members "id" = some rawId ∧
    integer? rawId = some g.number ∧ 1 ≤ g.number ∧ g.number ≤ 0xFF ∧
    ((Json.Members.get? members "entries").getD (.list [])).items = .ok raw ∧
    List.Forall₂ (DescribesEntry g.kind) raw g.entries

/-- The value describes the table. -/
def DescribesTable (v : Json.Value) (t : Table) : Prop :=
  ∃ members rawId raw, v = .object members ∧
    Json.Members.get? members "package" = some (.text t.package) ∧
    t.package ≠ "" ∧ Json.Members.get? members "id" = some rawId ∧
    integer? rawId = some t.number ∧ 1 ≤ t.number ∧ t.number ≤ 0xFF ∧
    ((Json.Members.get? members "types").getD (.list [])).items = .ok raw ∧
    List.Forall₂ DescribesGroup raw t.groups ∧
    (t.groups.map Group.kind).Nodup

/-! ## Numbers and names -/

@[simp] theorem refuse_ne_ok {α : Type} (fault : Fault) (a : α) :
    refuse fault ≠ .ok a := by
  unfold refuse
  split <;> simp

theorem items_eq_ok_iff {v : Json.Value} {vs : List Json.Value} :
    items v = .ok vs ↔ v.items = .ok vs := by
  unfold items
  split <;> simp_all

theorem readNumber_eq_ok_iff {site : Site} {low high : Nat} {v : Json.Value}
    {n : Int} :
    readNumber site low high v = .ok n ↔
      integer? v = some n ∧ (low : Int) ≤ n ∧ n ≤ (high : Int) := by
  unfold readNumber
  cases hInt : integer? v with
  | none => simp
  | some m =>
      by_cases hRange : (low : Int) ≤ m ∧ m ≤ (high : Int)
      · simp only [if_pos hRange, Except.ok.injEq, Option.some.injEq]
        constructor
        · rintro rfl
          exact ⟨rfl, hRange⟩
        · exact fun h => h.1
      · simp only [if_neg hRange, refuse_ne_ok, Option.some.injEq, false_iff]
        rintro ⟨rfl, hIn⟩
        exact hRange hIn

theorem readName_eq_ok_iff {site : Site} {v : Json.Value} {s : String} :
    readName site v = .ok s ↔ v = .text s ∧ s ≠ "" := by
  unfold readName
  cases v with
  | text r =>
      by_cases hEmpty : r = ""
      · subst hEmpty
        simp
      · simp only [String.isEmpty_iff, if_neg hEmpty, Except.ok.injEq,
          Json.Value.text.injEq]
        constructor
        · rintro rfl
          exact ⟨rfl, hEmpty⟩
        · exact fun h => h.1
  | _ => simp

theorem ofNumber_eq_ok_iff {n : Int} {id : Id} :
    Id.ofNumber n = .ok id ↔ n = (id.number : Int) := by
  constructor
  · intro h
    exact (Id.number_of_ofNumber h).symm
  · rintro rfl
    exact Id.ofNumber_number id

/-! ## Attributes and values -/

theorem readAttributeId_eq_ok_iff {slot : Slot} {v : Json.Value} {id : Id} :
    readAttributeId slot v = .ok id ↔
      integer? v = some (id.number : Int) ∧ id.isAssigned = true := by
  unfold readAttributeId
  cases hInt : integer? v with
  | none =>
      simp only [reduceCtorEq, false_and, iff_false]
      split <;> simp
  | some n =>
      simp only [Option.some.injEq, ← ofNumber_eq_ok_iff]
      cases hId : Id.ofNumber n with
      | error e => simp
      | ok found =>
          by_cases hAssigned : found.isAssigned = true
          · simp only [if_pos hAssigned, Except.ok.injEq]
            constructor
            · rintro rfl
              exact ⟨rfl, hAssigned⟩
            · exact fun h => h.1
          · simp only [if_neg hAssigned, reduceCtorEq, Except.ok.injEq, false_iff]
            rintro ⟨rfl, h⟩
            exact hAssigned h

theorem readAttributeName_eq_ok_iff {slot : Slot} {v : Json.Value} {n : Name} :
    readAttributeName slot v = .ok n ↔
      ∃ text, v = .text text ∧ text ≠ "" ∧ Name.parse .attr text = .ok n ∧
        n.isComplete = true := by
  simp only [readAttributeName, bind_eq_ok_iff, readName_eq_ok_iff, and_assoc]
  refine exists_congr fun text => and_congr_right fun _ => and_congr_right fun _ => ?_
  cases hParse : Name.parse .attr text with
  | error fault => simp
  | ok found =>
      by_cases hComplete : found.isComplete = true
      · simp only [if_pos hComplete, Except.ok.injEq]
        constructor
        · rintro rfl
          exact ⟨rfl, hComplete⟩
        · exact fun h => h.1
      · simp only [if_neg hComplete, reduceCtorEq, Except.ok.injEq, false_iff]
        rintro ⟨rfl, h⟩
        exact hComplete h

/-- A complete attribute name is written with a colon and so is never empty. -/
private theorem ne_empty_of_parse {text : String} {n : Name}
    (hParse : Name.parse .attr text = .ok n) : text ≠ "" := by
  rintro rfl
  simp [Name.parse, Text.cutText, Text.cut] at hParse

theorem readAttribute_eq_ok_iff {slot : Slot} {v : Json.Value} {a : Attribute} :
    readAttribute slot v = .ok a ↔ DescribesAttribute v a := by
  unfold readAttribute DescribesAttribute
  cases v with
  | object members =>
      simp only [Json.Value.object.injEq, exists_and_left, exists_eq_left']
      cases hId : Json.Members.get? members "id" with
      | none => simp
      | some rawId =>
          cases hName : Json.Members.get? members "name" with
          | none => simp
          | some rawName =>
              simp only [bind_eq_ok_iff, pure_eq_ok_iff, readAttributeId_eq_ok_iff,
                readAttributeName_eq_ok_iff, Option.some.injEq, exists_eq_left']
              constructor
              · rintro ⟨id, ⟨hInt, hAssigned⟩, name,
                  ⟨text, rfl, -, hParse, hComplete⟩, rfl⟩
                exact ⟨text, rfl, hInt, hAssigned, hParse, hComplete⟩
              · rintro ⟨text, rfl, hInt, hAssigned, hParse, hComplete⟩
                exact ⟨a.id, ⟨hInt, hAssigned⟩, a.name,
                  ⟨text, rfl, ne_empty_of_parse hParse, hParse, hComplete⟩, rfl⟩
  | _ => simp

theorem readAttributes_eq_ok_iff {owner : Owner} {index : Nat}
    {raw : List Json.Value} {attributes : List Attribute} :
    readAttributes owner index raw = .ok attributes ↔
      List.Forall₂ DescribesAttribute raw attributes := by
  induction raw generalizing index attributes with
  | nil =>
      simp only [readAttributes, Except.ok.injEq, List.forall₂_nil_left_iff]
      exact eq_comm
  | cons v vs ih =>
      simp only [readAttributes, bind_eq_ok_iff, pure_eq_ok_iff,
        readAttribute_eq_ok_iff, ih, List.forall₂_cons_left_iff]
      constructor
      · rintro ⟨a, hHead, rest, hTail, rfl⟩
        exact ⟨a, rest, hHead, hTail, rfl⟩
      · rintro ⟨a, rest, hHead, hTail, rfl⟩
        exact ⟨a, hHead, rest, hTail, rfl⟩

theorem readValue_eq_ok_iff {owner : Owner} {v : Json.Value} {held : Value} :
    readValue owner v = .ok held ↔ DescribesValue v held := by
  unfold readValue
  cases v with
  | object members =>
      cases hStyleable : Json.Members.get? members "styleable" with
      | none => cases held <;> simp [DescribesValue, hStyleable, eq_comm]
      | some inner =>
          cases inner with
          | list raw =>
              cases held with
              | item data => simp [DescribesValue, hStyleable, map_eq_ok_iff]
              | styleable attributes =>
                  simp [DescribesValue, hStyleable, map_eq_ok_iff,
                    readAttributes_eq_ok_iff]
          | _ => cases held <;> simp [DescribesValue, hStyleable]
  | _ => cases held <;> simp [DescribesValue, eq_comm]

/-! ## Entries, groups and tables -/

theorem readValues_eq_ok_iff {owner : Owner} {v : Json.Value} {held : List Value} :
    readValues owner v = .ok held ↔
      ∃ raw, v = .list raw ∧ (owner.kind = .styleable → raw ≠ []) ∧
        List.Forall₂ DescribesValue raw held := by
  unfold readValues
  cases v with
  | list raw =>
      by_cases hEmpty : owner.kind = .styleable ∧ raw = []
      · simp only [if_pos hEmpty, reduceCtorEq, Json.Value.list.injEq,
          exists_eq_left', false_iff]
        exact fun h => h.1 hEmpty.1 hEmpty.2
      · simp only [if_neg hEmpty, mapM_eq_ok_iff, readValue_eq_ok_iff,
          Json.Value.list.injEq, exists_eq_left']
        exact ⟨fun h => ⟨fun hKind hRaw => hEmpty ⟨hKind, hRaw⟩, h⟩, fun h => h.2⟩
  | _ => simp

theorem readEntry_eq_ok_iff {kind : Kind} {v : Json.Value} {e : Entry} :
    readEntry kind v = .ok e ↔ DescribesEntry kind v e := by
  unfold readEntry DescribesEntry
  cases v with
  | object members =>
      cases hName : Json.Members.get? members "name" with
      | none => simp [hName]
      | some rawName =>
          cases hId : Json.Members.get? members "id" with
          | none => simp [hId]
          | some rawId =>
              simp only [hName, hId, bind_eq_ok_iff, pure_eq_ok_iff,
                readName_eq_ok_iff, readNumber_eq_ok_iff, readValues_eq_ok_iff,
                Json.Value.object.injEq]
              constructor
              · rintro ⟨text, ⟨rfl, hText⟩, number, ⟨hInt, hLow, hHigh⟩, held,
                  ⟨raw, hRaw, hSome, hHeld⟩, rfl⟩
                exact ⟨members, rawId, raw, rfl, hName, hText, hId, hInt, hLow,
                  hHigh, hRaw, hSome, hHeld⟩
              · rintro ⟨_, _, raw, rfl, hName', hText, hId', hInt, hLow, hHigh,
                  hRaw, hSome, hHeld⟩
                obtain rfl : rawName = .text e.name := by simpa [hName] using hName'
                obtain rfl := Option.some.inj (hId.symm.trans hId')
                exact ⟨e.name, ⟨rfl, hText⟩, e.number, ⟨hInt, hLow, hHigh⟩,
                  e.values, ⟨raw, hRaw, hSome, hHeld⟩, rfl⟩
  | _ => simp

theorem readKind_eq_ok_iff {tag : Json.Value} {kind : Kind} :
    readKind tag = .ok kind ↔ tag = .text kind.tag := by
  unfold readKind
  cases tag with
  | text s =>
      simp only [Json.Value.text?, Option.bind_some, Json.Value.text.injEq,
        eq_comm (a := s), ← Kind.ofTag?_eq_some_iff]
      cases Kind.ofTag? s <;> simp
  | _ => simp [Json.Value.text?]

theorem readGroup_eq_ok_iff {seen : List Kind} {v : Json.Value} {g : Group} :
    readGroup seen v = .ok g ↔ DescribesGroup v g ∧ g.kind ∉ seen := by
  unfold readGroup DescribesGroup
  cases v with
  | object members =>
      cases hTag : Json.Members.get? members "type" with
      | none => simp [hTag]
      | some tag =>
          cases hId : Json.Members.get? members "id" with
          | none => simp [hId]
          | some rawId =>
              simp only [hTag, hId, bind_eq_ok_iff, readKind_eq_ok_iff]
              constructor
              · rintro ⟨kind, rfl, h⟩
                by_cases hSeen : kind ∈ seen
                · simp [if_pos hSeen] at h
                · simp only [if_neg hSeen, bind_eq_ok_iff, pure_eq_ok_iff,
                    readNumber_eq_ok_iff, items_eq_ok_iff, mapM_eq_ok_iff,
                    readEntry_eq_ok_iff] at h
                  obtain ⟨number, ⟨hInt, hLow, hHigh⟩, raw, hRaw, entries,
                    hEntries, rfl⟩ := h
                  exact ⟨⟨members, rawId, raw, rfl, hTag, hId, hInt, hLow, hHigh,
                    hRaw, hEntries⟩, hSeen⟩
              · rintro ⟨⟨_, _, raw, hObject, hTag', hId', hInt, hLow, hHigh, hRaw,
                  hEntries⟩, hSeen⟩
                obtain rfl := Json.Value.object.inj hObject
                obtain rfl : tag = .text g.kind.tag := by simpa [hTag] using hTag'
                obtain rfl := Option.some.inj (hId.symm.trans hId')
                refine ⟨g.kind, rfl, ?_⟩
                simp only [if_neg hSeen, bind_eq_ok_iff, pure_eq_ok_iff,
                  readNumber_eq_ok_iff, items_eq_ok_iff, mapM_eq_ok_iff,
                  readEntry_eq_ok_iff]
                exact ⟨g.number, ⟨hInt, hLow, hHigh⟩, raw, hRaw, g.entries,
                  hEntries, rfl⟩
  | _ => simp

/-- The groups that are read are of kinds of their own, none of them in `seen`. -/
theorem readGroups_eq_ok_iff {seen : List Kind} {raw : List Json.Value}
    {gs : List Group} :
    readGroups seen raw = .ok gs ↔
      List.Forall₂ DescribesGroup raw gs ∧ (gs.map Group.kind).Nodup ∧
        ∀ g ∈ gs, g.kind ∉ seen := by
  induction raw generalizing seen gs with
  | nil =>
      simp only [readGroups, Except.ok.injEq, List.forall₂_nil_left_iff]
      constructor
      · rintro rfl
        simp
      · exact fun h => h.1.symm
  | cons v vs ih =>
      simp only [readGroups, bind_eq_ok_iff, pure_eq_ok_iff, readGroup_eq_ok_iff,
        ih, List.forall₂_cons_left_iff]
      constructor
      · rintro ⟨g, ⟨hHead, hNew⟩, rest, ⟨hTail, hNodup, hRest⟩, rfl⟩
        refine ⟨⟨g, rest, hHead, hTail, rfl⟩, ?_, ?_⟩
        · rw [List.map_cons, List.nodup_cons]
          refine ⟨fun hMem => ?_, hNodup⟩
          obtain ⟨h, hh, hKind⟩ := List.mem_map.1 hMem
          exact hRest h hh (hKind ▸ List.mem_cons_self)
        · intro h hMem
          rcases List.mem_cons.1 hMem with rfl | hMem
          · exact hNew
          · exact fun hSeen => hRest h hMem (List.mem_cons_of_mem _ hSeen)
      · rintro ⟨⟨g, rest, hHead, hTail, rfl⟩, hNodup, hSeen⟩
        rw [List.map_cons, List.nodup_cons] at hNodup
        refine ⟨g, ⟨hHead, hSeen g List.mem_cons_self⟩, rest,
          ⟨hTail, hNodup.2, ?_⟩, rfl⟩
        intro h hMem hIn
        rcases List.mem_cons.1 hIn with hKind | hIn
        · exact hNodup.1 (List.mem_map.2 ⟨h, hMem, hKind⟩)
        · exact hSeen h (List.mem_cons_of_mem _ hMem) hIn

/-- The reader of documents finds the table that is described, and no other. -/
theorem ofDocument_eq_ok_iff {v : Json.Value} {t : Table} :
    Table.ofDocument v = .ok t ↔ DescribesTable v t := by
  unfold Table.ofDocument DescribesTable
  cases v with
  | object members =>
      cases hPackage : Json.Members.get? members "package" with
      | none => simp [hPackage]
      | some rawPackage =>
          cases hId : Json.Members.get? members "id" with
          | none => simp [hPackage, hId]
          | some rawId =>
              simp only [hPackage, hId, bind_eq_ok_iff, pure_eq_ok_iff,
                readName_eq_ok_iff, readNumber_eq_ok_iff, items_eq_ok_iff,
                readGroups_eq_ok_iff]
              constructor
              · rintro ⟨package, ⟨rfl, hText⟩, number, ⟨hInt, hLow, hHigh⟩, raw,
                  hRaw, gs, ⟨hGroups, hNodup, -⟩, rfl⟩
                exact ⟨members, rawId, raw, rfl, hPackage, hText, hId, hInt, hLow,
                  hHigh, hRaw, hGroups, hNodup⟩
              · rintro ⟨_, _, raw, hObject, hPackage', hText, hId', hInt, hLow,
                  hHigh, hRaw, hGroups, hNodup⟩
                obtain rfl := Json.Value.object.inj hObject
                obtain rfl : rawPackage = .text t.package := by
                  simpa [hPackage] using hPackage'
                obtain rfl := Option.some.inj (hId.symm.trans hId')
                exact ⟨t.package, ⟨rfl, hText⟩, t.number, ⟨hInt, hLow, hHigh⟩, raw,
                  hRaw, t.groups, ⟨hGroups, hNodup, by simp⟩, rfl⟩
  | _ => simp

end Document

end ResourceSymbols.Resource
