import ResourceSymbols.Proofs.Refusal
import ResourceSymbols.Proofs.StorageOrder

/-!
# Which tables can be read

Every well-formed table is read from a document, and no other table is.  An object
that a program holds gives no key twice, and then no item of the table does: for such
documents and such items the same is true.

## Main results

* `ofDocument_document` — a well-formed table is read back from its document.
* `keyed_of_ofDocument`, `keyed_document` — keys that are given once stay so.
* `exists_document_iff` — the tables that can be read are the well-formed ones.
-/

namespace ResourceSymbols

/-! ## Keys given once -/

namespace Json.Value

/-- No object in the value gives a key twice. -/
def Keyed (v : Value) : Prop :=
  ∀ members, Within (.object members) v → (members.map Prod.fst).Nodup

theorem Keyed.within {v w : Value} (hKeyed : w.Keyed) (hWithin : Within v w) : v.Keyed :=
  fun members hObject => hKeyed members (hObject.trans hWithin)

theorem keyed_int (n : Int) : (int n).Keyed := by
  intro members hObject
  cases hObject

theorem keyed_text (s : String) : (text s).Keyed := by
  intro members hObject
  cases hObject

theorem keyed_list_iff {vs : List Value} : (list vs).Keyed ↔ ∀ v ∈ vs, v.Keyed := by
  constructor
  · intro hKeyed v hMem
    exact hKeyed.within (.item hMem (.self v))
  · intro hItems members hObject
    cases hObject with
    | item hMem hWithin => exact hItems _ hMem members hWithin

theorem keyed_object_iff {ms : Members} :
    (object ms).Keyed ↔ (ms.map Prod.fst).Nodup ∧ ∀ m ∈ ms, m.2.Keyed := by
  constructor
  · intro hKeyed
    refine ⟨hKeyed ms (.self _), ?_⟩
    rintro ⟨key, v⟩ hMem
    exact hKeyed.within (.member hMem (.self v))
  · rintro ⟨hNodup, hValues⟩ members hObject
    cases hObject with
    | self => exact hNodup
    | member hMem hWithin => exact hValues _ hMem members hWithin

/-- What stands where a list may be left out stands in the object, or is a text. -/
theorem within_of_optional_items {ms : Members} {key : String} {raw : List Value} {w : Value}
    (hItems : ((Members.get? ms key).getD (.list [])).items = .ok raw) (hMem : w ∈ raw) :
    Within w (.object ms) ∨ ∃ s, w = .text s := by
  cases hGet : Members.get? ms key with
  | none =>
      rw [hGet] at hItems
      obtain rfl : [] = raw := Except.ok.inj hItems
      cases hMem
  | some v =>
      rw [hGet, Option.getD_some] at hItems
      rcases within_of_items hItems hMem with ⟨-, hWithin⟩ | hText
      · exact .inl (hWithin.trans (within_of_get? hGet))
      · exact .inr hText

end Json.Value

namespace Resource

open Document Outcome
open Json.Value (Keyed Within)

/-! ## The document of a table -/

/-- The attribute as an object. -/
def Attribute.document (a : Attribute) : Json.Value :=
  .object [("id", .int a.id.number), ("name", .text a.name.text)]

/-- Attributes as an object with `styleable`; an item stands for itself. -/
def Value.document : Value → Json.Value
  | .item data => data
  | .styleable attributes =>
    .object [("styleable", .list (attributes.map Attribute.document))]

/-- The entry as an object. -/
def Entry.document (e : Entry) : Json.Value :=
  .object [("name", .text e.name), ("id", .int e.number),
    ("values", .list (e.values.map Value.document))]

/-- The group as an object. -/
def Group.document (g : Group) : Json.Value :=
  .object [("type", .text g.kind.tag), ("id", .int g.number),
    ("entries", .list (g.entries.map Entry.document))]

/-- The table as an object, with groups, entries, values and attributes in their
order. -/
def Table.document (t : Table) : Json.Value :=
  .object [("package", .text t.package), ("id", .int t.number),
    ("types", .list (t.groups.map Group.document))]

/-- A list whose members are each related to what they are written as. -/
private theorem forall₂_map_self {α β : Type} {R : β → α → Prop} {f : α → β} {xs : List α}
    (hEach : ∀ x ∈ xs, R (f x) x) : List.Forall₂ R (xs.map f) xs := by
  rw [List.forall₂_map_left_iff]
  exact List.forall₂_same.2 hEach

theorem Attribute.describes_document {a : Attribute} (h : a.WellFormed) :
    DescribesAttribute a.document a :=
  ⟨_, .int a.id.number, a.name.text, rfl, rfl, rfl, rfl, h.assigned,
    Name.parse_text .attr h.complete h.noColon, h.complete⟩

theorem Value.describes_document {held : Value} (h : held.WellFormed) :
    DescribesValue held.document held := by
  cases held with
  | item data => exact ⟨rfl, h⟩
  | styleable attributes =>
      refine ⟨_, _, rfl, rfl, forall₂_map_self fun a ha => ?_⟩
      exact Attribute.describes_document (h a ha)

theorem Entry.describes_document {kind : Kind} {e : Entry} (h : e.WellFormed kind) :
    DescribesEntry kind e.document e := by
  refine ⟨_, .int e.number, _, rfl, rfl, h.named, rfl, rfl, h.nonneg, h.le, rfl, ?_, ?_⟩
  · intro hKind hNil
    exact h.holds hKind (List.map_eq_nil_iff.1 hNil)
  · exact forall₂_map_self fun held hHeld => Value.describes_document (h.values held hHeld)

theorem Group.describes_document {g : Group} (h : g.WellFormed) :
    DescribesGroup g.document g :=
  ⟨_, .int g.number, _, rfl, rfl, rfl, rfl, h.pos, h.le, rfl,
    forall₂_map_self fun e he => Entry.describes_document (h.entries e he)⟩

theorem Table.describes_document {t : Table} (h : t.WellFormed) :
    DescribesTable t.document t :=
  ⟨_, .int t.number, _, rfl, rfl, h.named, rfl, rfl, h.pos, h.le, rfl,
    forall₂_map_self fun g hg => Group.describes_document (h.groups g hg), h.kinds⟩

/-- A well-formed table is read back from its document. -/
theorem Table.ofDocument_document {t : Table} (h : t.WellFormed) :
    Table.ofDocument t.document = .ok t :=
  ofDocument_eq_ok_iff.2 (Table.describes_document h)

/-! ## Tables whose items give no key twice -/

/-- No object in an item gives a key twice. -/
def Value.Keyed : Value → Prop
  | .item data => data.Keyed
  | .styleable _ => True

/-- No object in an item of the table gives a key twice. -/
def Table.Keyed (t : Table) : Prop :=
  ∀ g ∈ t.groups, ∀ e ∈ g.entries, ∀ held ∈ e.values, held.Keyed

theorem Attribute.keyed_document (a : Attribute) : a.document.Keyed := by
  have hKeys : ["id", "name"].Nodup := by decide
  rw [Attribute.document, Json.Value.keyed_object_iff]
  refine ⟨hKeys, ?_⟩
  simp only [List.forall_mem_cons, List.not_mem_nil, false_implies, implies_true, and_true]
  exact ⟨Json.Value.keyed_int _, Json.Value.keyed_text _⟩

theorem Value.keyed_document {held : Value} (h : held.Keyed) : held.document.Keyed := by
  cases held with
  | item data => exact h
  | styleable attributes =>
      rw [Value.document, Json.Value.keyed_object_iff]
      refine ⟨List.nodup_cons.2 ⟨List.not_mem_nil, List.nodup_nil⟩, ?_⟩
      rw [List.forall_mem_singleton, Json.Value.keyed_list_iff, List.forall_mem_map]
      exact fun a _ => a.keyed_document

/-- An object with a text, a number and a list gives no key twice if its items do
not. -/
private theorem keyed_record {nameKey idKey listKey name : String} {number : Int}
    {items : List Json.Value} (hKeys : [nameKey, idKey, listKey].Nodup)
    (hItems : ∀ v ∈ items, v.Keyed) :
    (Json.Value.object [(nameKey, .text name), (idKey, .int number),
      (listKey, .list items)]).Keyed := by
  rw [Json.Value.keyed_object_iff]
  refine ⟨hKeys, ?_⟩
  simp only [List.forall_mem_cons, List.not_mem_nil, false_implies, implies_true, and_true]
  exact ⟨Json.Value.keyed_text _, Json.Value.keyed_int _, Json.Value.keyed_list_iff.2 hItems⟩

theorem Table.keyed_document {t : Table} (h : t.Keyed) : t.document.Keyed := by
  refine keyed_record (by decide) (List.forall_mem_map.2 fun g hg => ?_)
  refine keyed_record (by decide) (List.forall_mem_map.2 fun e he => ?_)
  refine keyed_record (by decide) (List.forall_mem_map.2 fun held hHeld => ?_)
  exact Value.keyed_document (h g hg e he held hHeld)

theorem Value.keyed_of_describes {v : Json.Value} {held : Value} (hKeyed : v.Keyed)
    (hDescribes : DescribesValue v held) : held.Keyed := by
  cases held with
  | item data =>
      obtain ⟨rfl, -⟩ := hDescribes
      exact hKeyed
  | styleable attributes => trivial

theorem Entry.keyed_of_describes {kind : Kind} {v : Json.Value} {e : Entry} (hKeyed : v.Keyed)
    (hDescribes : DescribesEntry kind v e) : ∀ held ∈ e.values, held.Keyed := by
  obtain ⟨members, _, raw, rfl, _, _, _, _, _, _, hRaw, _, hValues⟩ := hDescribes
  intro held hHeld
  obtain ⟨w, hMem, hHolds⟩ := exists_of_mem_right hValues hHeld
  have hItems : ((Json.Members.get? members "values").getD (.list [])).items = .ok raw := by
    rw [hRaw]
    rfl
  rcases Json.Value.within_of_optional_items hItems hMem with hWithin | ⟨s, rfl⟩
  · exact Value.keyed_of_describes (hKeyed.within hWithin) hHolds
  · exact Value.keyed_of_describes (Json.Value.keyed_text s) hHolds

theorem Group.keyed_of_describes {v : Json.Value} {g : Group} (hKeyed : v.Keyed)
    (hDescribes : DescribesGroup v g) : ∀ e ∈ g.entries, ∀ held ∈ e.values, held.Keyed := by
  obtain ⟨members, _, raw, rfl, _, _, _, _, _, hItems, hEntries⟩ := hDescribes
  intro e he
  obtain ⟨w, hMem, hEntry⟩ := exists_of_mem_right hEntries he
  rcases Json.Value.within_of_optional_items hItems hMem with hWithin | ⟨s, rfl⟩
  · exact Entry.keyed_of_describes (hKeyed.within hWithin) hEntry
  · exact Entry.keyed_of_describes (Json.Value.keyed_text s) hEntry

/-- Items are taken from the document as they are. -/
theorem Table.keyed_of_ofDocument {v : Json.Value} {t : Table} (hKeyed : v.Keyed)
    (hRead : Table.ofDocument v = .ok t) : t.Keyed := by
  obtain ⟨members, _, raw, rfl, _, _, _, _, _, _, hItems, hGroups, _⟩ :=
    ofDocument_eq_ok_iff.1 hRead
  intro g hg
  obtain ⟨w, hMem, hGroup⟩ := exists_of_mem_right hGroups hg
  rcases Json.Value.within_of_optional_items hItems hMem with hWithin | ⟨s, rfl⟩
  · exact Group.keyed_of_describes (hKeyed.within hWithin) hGroup
  · exact Group.keyed_of_describes (Json.Value.keyed_text s) hGroup

/-- The tables that are read from documents are the well-formed ones; those that are
read from documents with keys given once are the well-formed ones with such items; and
what is read is, group by group, entry by entry, value by value and attribute by
attribute, what the document gives in its order. -/
theorem Table.exists_document_iff (t : Table) :
    ((∃ v, Table.ofDocument v = .ok t) ↔ t.WellFormed) ∧
    ((∃ v, v.Keyed ∧ Table.ofDocument v = .ok t) ↔ t.WellFormed ∧ t.Keyed) ∧
    ∀ v, Table.ofDocument v = .ok t ↔ DescribesTable v t := by
  refine ⟨⟨?_, ?_⟩, ⟨?_, ?_⟩, fun v => ofDocument_eq_ok_iff⟩
  · rintro ⟨v, hRead⟩
    exact Table.wellFormed_of_ofDocument hRead
  · intro hTable
    exact ⟨t.document, Table.ofDocument_document hTable⟩
  · rintro ⟨v, hKeyed, hRead⟩
    exact ⟨Table.wellFormed_of_ofDocument hRead, Table.keyed_of_ofDocument hKeyed hRead⟩
  · rintro ⟨hTable, hItems⟩
    exact ⟨t.document, Table.keyed_document hItems, Table.ofDocument_document hTable⟩

end Resource

end ResourceSymbols
