import Mathlib.Data.List.Perm.Basic
import ResourceSymbols.Proofs.Description

/-!
# Documents with rearranged attributes

The attributes of a styleable are listed under the key `styleable`.  Where two
documents differ in the order of such lists only, each of them in a way of its own,
the reader finds the same table in both, but for the order of the attributes.

## Main results

* `get?_of_rearranged` — what stands under a key of a rearranged object.
* `exists_forall₂` — how a reader of items carries over to rearranged items.
* `ofDocument_of_rearranged` — a rearranged document describes a table of the same
  entries, with the same attributes in each styleable.
-/

namespace ResourceSymbols

/-- Where the members of two objects are related one by one, a key finds nothing in both, or
related values. -/
theorem Json.Members.get?_of_forall₂ {R : String → Json.Value → Json.Value → Prop}
    {ms ns : Json.Members}
    (hMembers : List.Forall₂ (fun m n => n.1 = m.1 ∧ R m.1 m.2 n.2) ms ns) (key : String) :
    (Json.Members.get? ms key = none ∧ Json.Members.get? ns key = none) ∨
      ∃ v w, Json.Members.get? ms key = some v ∧ Json.Members.get? ns key = some w ∧
        R key v w := by
  induction hMembers with
  | nil => exact .inl ⟨rfl, rfl⟩
  | @cons m n ms ns hMember hMembers ih =>
      obtain ⟨k, v⟩ := m
      obtain ⟨k', w⟩ := n
      obtain ⟨rfl, hValues⟩ := hMember
      by_cases hKey : key = k'
      · subst hKey
        exact .inr ⟨v, w, if_pos rfl, if_pos rfl, hValues⟩
      · have hLeft : Json.Members.get? ((k', v) :: ms) key = Json.Members.get? ms key :=
          if_neg hKey
        have hRight : Json.Members.get? ((k', w) :: ns) key = Json.Members.get? ns key :=
          if_neg hKey
        rw [hLeft, hRight]
        exact ih

namespace Resource

/-! ## Tables -/

/-- The values hold the same attributes, in whatever order, or none at all. -/
inductive Value.Alike : Value → Value → Prop
  | item (a b : Json.Value) : Value.Alike (.item a) (.item b)
  | styleable {as bs : List Attribute} (hPerm : as.Perm bs) :
      Value.Alike (.styleable as) (.styleable bs)

/-- The entries have the same name and number, and hold the same attributes. -/
structure Entry.Alike (d e : Entry) : Prop where
  name : e.name = d.name
  number : e.number = d.number
  values : List.Forall₂ Value.Alike d.values e.values

/-- The groups are of the same kind and number, and their entries are alike. -/
structure Group.Alike (g h : Group) : Prop where
  kind : h.kind = g.kind
  number : h.number = g.number
  entries : List.Forall₂ Entry.Alike g.entries h.entries

/-- The tables are of the same package, and their groups are alike. -/
structure Table.Alike (t u : Table) : Prop where
  package : u.package = t.package
  number : u.number = t.number
  groups : List.Forall₂ Group.Alike t.groups u.groups

namespace Document

open Outcome

/-! ## Documents -/

mutual

/-- The second value is the first with the lists under `styleable` rearranged. -/
inductive Rearranged : Json.Value → Json.Value → Prop
  | same (v : Json.Value) : Rearranged v v
  | list {vs ws : List Json.Value} (hItems : List.Forall₂ Rearranged vs ws) :
      Rearranged (.list vs) (.list ws)
  | object {ms ns : Json.Members} (hMembers : List.Forall₂ RearrangedMember ms ns) :
      Rearranged (.object ms) (.object ns)

/-- The same of a member of an object.  The items of a list under `styleable` may be
rearranged themselves before the list is. -/
inductive RearrangedMember : String × Json.Value → String × Json.Value → Prop
  | member (key : String) {v w : Json.Value} (h : Rearranged v w) :
      RearrangedMember (key, v) (key, w)
  | styleable {vs us ws : List Json.Value} (hItems : List.Forall₂ Rearranged vs us)
      (hPerm : us.Perm ws) :
      RearrangedMember ("styleable", .list vs) ("styleable", .list ws)

end

section

variable {v w : Json.Value}

/-- What is no list and no object stays as it is. -/
theorem Rearranged.text_eq {s : String} (h : Rearranged (.text s) w) : w = .text s := by
  cases h
  rfl

theorem Rearranged.integer?_eq (h : Rearranged v w) : integer? w = integer? v := by
  cases h <;> rfl

theorem Rearranged.exists_list {vs : List Json.Value} (h : Rearranged (.list vs) w) :
    ∃ ws, w = .list ws ∧ List.Forall₂ Rearranged vs ws := by
  cases h with
  | same => exact ⟨vs, rfl, List.forall₂_same.2 fun x _ => .same x⟩
  | list hItems => exact ⟨_, rfl, hItems⟩

theorem Rearranged.exists_object {ms : Json.Members} (h : Rearranged (.object ms) w) :
    ∃ ns, w = .object ns ∧ List.Forall₂ RearrangedMember ms ns := by
  cases h with
  | same => exact ⟨ms, rfl, List.forall₂_same.2 fun m _ => .member m.1 (.same m.2)⟩
  | object hMembers => exact ⟨_, rfl, hMembers⟩

/-- A member keeps its key. -/
theorem RearrangedMember.key_eq {m n : String × Json.Value} (h : RearrangedMember m n) :
    n.1 = m.1 := by
  cases h <;> rfl

/-- A key finds nothing in both objects, or the value and its rearrangement. -/
theorem get?_of_rearranged {ms ns : Json.Members}
    (hMembers : List.Forall₂ RearrangedMember ms ns) (key : String) :
    (Json.Members.get? ms key = none ∧ Json.Members.get? ns key = none) ∨
      ∃ v w, Json.Members.get? ms key = some v ∧ Json.Members.get? ns key = some w ∧
        RearrangedMember (key, v) (key, w) := by
  have hKeys : List.Forall₂
      (fun m n => n.1 = m.1 ∧ RearrangedMember (m.1, m.2) (m.1, n.2)) ms ns := by
    refine hMembers.imp ?_
    rintro ⟨k, v⟩ ⟨k', w⟩ hMember
    obtain rfl : k' = k := hMember.key_eq
    exact ⟨rfl, hMember⟩
  exact Json.Members.get?_of_forall₂ (R := fun k v w => RearrangedMember (k, v) (k, w))
    hKeys key

/-- Under any other key than `styleable` the value is a rearranged one. -/
theorem get?_of_ne {ms ns : Json.Members} (hMembers : List.Forall₂ RearrangedMember ms ns)
    {key : String} (hKey : key ≠ "styleable") (hGet : Json.Members.get? ms key = some v) :
    ∃ w, Json.Members.get? ns key = some w ∧ Rearranged v w := by
  rcases get?_of_rearranged hMembers key with ⟨hNone, -⟩ | ⟨v', w, hLeft, hRight, hMember⟩
  · rw [hGet] at hNone
    cases hNone
  · obtain rfl := Option.some.inj (hGet.symm.trans hLeft)
    cases hMember with
    | member _ h => exact ⟨w, hRight, h⟩
    | styleable => exact absurd rfl hKey

/-- The same where a key that is not there counts as an empty list. -/
theorem getD_of_ne {ms ns : Json.Members} (hMembers : List.Forall₂ RearrangedMember ms ns)
    {key : String} (hKey : key ≠ "styleable") :
    Rearranged ((Json.Members.get? ms key).getD (.list []))
      ((Json.Members.get? ns key).getD (.list [])) := by
  rcases get?_of_rearranged hMembers key with ⟨hLeft, hRight⟩ | ⟨v, w, hLeft, hRight, hMember⟩
  · rw [hLeft, hRight]
    exact .same _
  · rw [hLeft, hRight]
    cases hMember with
    | member _ h => exact h
    | styleable => exact absurd rfl hKey

/-- The names in a rearranged object are the same, and the items of a list are
rearranged themselves. -/
theorem items_of_rearranged {vs : List Json.Value} (hItems : v.items = .ok vs)
    (h : Rearranged v w) : ∃ ws, w.items = .ok ws ∧ List.Forall₂ Rearranged vs ws := by
  cases h with
  | same => exact ⟨vs, hItems, List.forall₂_same.2 fun x _ => .same x⟩
  | list hList =>
      cases hItems
      exact ⟨_, rfl, hList⟩
  | @object ms ns hMembers =>
      cases hItems
      refine ⟨_, rfl, List.forall₂_map_left_iff.2 (List.forall₂_map_right_iff.2 ?_)⟩
      refine hMembers.imp fun m n hMember => ?_
      rw [hMember.key_eq]
      exact .same _

end

/-! ## What rearranged documents describe -/

/-- What is described item by item is described by rearranged items too, but for
what the rearrangement of an item changes. -/
theorem exists_forall₂ {α β : Type} {Changed : α → α → Prop} {Describes : α → β → Prop}
    {Alike : β → β → Prop}
    {vs ws : List α} {bs : List β} (hDescribes : List.Forall₂ Describes vs bs)
    (hChanged : List.Forall₂ Changed vs ws)
    (hItem : ∀ v w b, Describes v b → Changed v w → ∃ c, Describes w c ∧ Alike b c) :
    ∃ cs, List.Forall₂ Describes ws cs ∧ List.Forall₂ Alike bs cs := by
  induction hDescribes generalizing ws with
  | nil =>
      cases hChanged
      exact ⟨[], .nil, .nil⟩
  | cons hHead hTail ih =>
      cases hChanged with
      | cons hChange hChanges =>
          obtain ⟨c, hc, hAlike⟩ := hItem _ _ _ hHead hChange
          obtain ⟨cs, hcs, hAlikes⟩ := ih hChanges
          exact ⟨c :: cs, .cons hc hcs, .cons hAlike hAlikes⟩

theorem describesAttribute_of_rearranged {v w : Json.Value} {a : Attribute}
    (hDescribes : DescribesAttribute v a) (h : Rearranged v w) : DescribesAttribute w a := by
  obtain ⟨ms, rawId, text, rfl, hId, hName, hInt, hRest⟩ := hDescribes
  obtain ⟨ns, rfl, hMembers⟩ := h.exists_object
  obtain ⟨rawId', hId', hSame⟩ := get?_of_ne hMembers (by decide) hId
  obtain ⟨rawName', hName', hText⟩ := get?_of_ne hMembers (by decide) hName
  obtain rfl := hText.text_eq
  exact ⟨ns, rawId', text, rfl, hId', hName', hSame.integer?_eq.trans hInt, hRest⟩

theorem describesAttributes_of_rearranged {vs ws : List Json.Value} {as : List Attribute}
    (hDescribes : List.Forall₂ DescribesAttribute vs as)
    (h : List.Forall₂ Rearranged vs ws) : List.Forall₂ DescribesAttribute ws as := by
  have hItem : ∀ (v w : Json.Value) (a : Attribute), DescribesAttribute v a →
      Rearranged v w → ∃ b, DescribesAttribute w b ∧ a = b :=
    fun _ _ a ha hvw => ⟨a, describesAttribute_of_rearranged ha hvw, rfl⟩
  obtain ⟨bs, hbs, hSame⟩ := exists_forall₂ hDescribes h hItem
  rw [List.forall₂_eq_eq_eq] at hSame
  exact hSame ▸ hbs

theorem describesValue_of_rearranged {v w : Json.Value} {held : Value}
    (hDescribes : DescribesValue v held) (h : Rearranged v w) :
    ∃ held', DescribesValue w held' ∧ held.Alike held' := by
  cases held with
  | item data =>
      obtain ⟨rfl, hNone⟩ := hDescribes
      refine ⟨.item w, ⟨rfl, ?_⟩, .item _ _⟩
      rintro ns rfl
      cases h with
      | same => exact hNone ns rfl
      | @object ms _ hMembers =>
          rcases get?_of_rearranged hMembers "styleable" with ⟨-, hRight⟩ | ⟨_, _, hLeft, -⟩
          · exact hRight
          · rw [hNone ms rfl] at hLeft
            cases hLeft
  | styleable as =>
      obtain ⟨ms, raw, rfl, hRaw, hAll⟩ := hDescribes
      obtain ⟨ns, rfl, hMembers⟩ := h.exists_object
      rcases get?_of_rearranged hMembers "styleable" with
        ⟨hLeft, -⟩ | ⟨v, w, hLeft, hRight, hMember⟩
      · rw [hRaw] at hLeft
        cases hLeft
      · obtain rfl := Option.some.inj (hRaw.symm.trans hLeft)
        cases hMember with
        | member _ hInner =>
            obtain ⟨ws, rfl, hItems⟩ := hInner.exists_list
            exact ⟨.styleable as, ⟨ns, ws, rfl, hRight,
              describesAttributes_of_rearranged hAll hItems⟩, .styleable (.refl as)⟩
        | styleable hItems hPerm =>
            -- The list is rearranged as a whole, and the attributes follow it.
            obtain ⟨bs, hbs, hPerm'⟩ := List.perm_comp_forall₂ hPerm.symm
              (describesAttributes_of_rearranged hAll hItems)
            exact ⟨.styleable bs, ⟨ns, _, rfl, hRight, hbs⟩, .styleable hPerm'.symm⟩

theorem describesEntry_of_rearranged {kind : Kind} {v w : Json.Value} {e : Entry}
    (hDescribes : DescribesEntry kind v e) (h : Rearranged v w) :
    ∃ e', DescribesEntry kind w e' ∧ e.Alike e' := by
  obtain ⟨ms, rawId, raw, rfl, hName, hNamed, hId, hInt, hLow, hHigh, hRaw, hSome, hValues⟩ :=
    hDescribes
  obtain ⟨ns, rfl, hMembers⟩ := h.exists_object
  obtain ⟨rawName', hName', hText⟩ := get?_of_ne hMembers (by decide) hName
  obtain rfl := hText.text_eq
  obtain ⟨rawId', hId', hSame⟩ := get?_of_ne hMembers (by decide) hId
  have hOther : "values" ≠ "styleable" := by decide
  obtain ⟨raw', hRaw', hItems⟩ := (hRaw ▸ getD_of_ne hMembers hOther).exists_list
  obtain ⟨held, hHeld', hAlike⟩ := exists_forall₂ hValues hItems
    fun _ _ _ => describesValue_of_rearranged
  have hSome' : kind = .styleable → raw' ≠ [] := by
    rintro hKind rfl
    exact hSome hKind (List.forall₂_nil_right_iff.1 hItems)
  exact ⟨⟨e.name, e.number, held⟩, ⟨ns, rawId', raw', rfl, hName', hNamed, hId',
    hSame.integer?_eq.trans hInt, hLow, hHigh, hRaw', hSome', hHeld'⟩, ⟨rfl, rfl, hAlike⟩⟩

theorem describesGroup_of_rearranged {v w : Json.Value} {g : Group}
    (hDescribes : DescribesGroup v g) (h : Rearranged v w) :
    ∃ g', DescribesGroup w g' ∧ g.Alike g' := by
  obtain ⟨ms, rawId, raw, rfl, hTag, hId, hInt, hLow, hHigh, hRaw, hEntries⟩ := hDescribes
  obtain ⟨ns, rfl, hMembers⟩ := h.exists_object
  obtain ⟨tag', hTag', hText⟩ := get?_of_ne hMembers (by decide) hTag
  obtain rfl := hText.text_eq
  obtain ⟨rawId', hId', hSame⟩ := get?_of_ne hMembers (by decide) hId
  obtain ⟨raw', hRaw', hItems⟩ := items_of_rearranged hRaw (getD_of_ne hMembers (by decide))
  obtain ⟨es, hes, hAlike⟩ := exists_forall₂ hEntries hItems
    fun _ _ _ => describesEntry_of_rearranged
  exact ⟨⟨g.kind, g.number, es⟩, ⟨ns, rawId', raw', rfl, hTag', hId',
    hSame.integer?_eq.trans hInt, hLow, hHigh, hRaw', hes⟩, ⟨rfl, rfl, hAlike⟩⟩

theorem map_kind_of_alike {gs hs : List Group} (h : List.Forall₂ Group.Alike gs hs) :
    hs.map Group.kind = gs.map Group.kind := by
  induction h with
  | nil => rfl
  | cons hHead _ ih => rw [List.map_cons, List.map_cons, hHead.kind, ih]

/-- A rearranged document is read where the document is, and the tables are alike. -/
theorem ofDocument_of_rearranged {v w : Json.Value} {t : Table}
    (hRead : Table.ofDocument v = .ok t) (h : Rearranged v w) :
    ∃ u, Table.ofDocument w = .ok u ∧ t.Alike u := by
  obtain ⟨ms, rawId, raw, rfl, hPackage, hNamed, hId, hInt, hLow, hHigh, hRaw, hGroups,
    hKinds⟩ := ofDocument_eq_ok_iff.1 hRead
  obtain ⟨ns, rfl, hMembers⟩ := h.exists_object
  obtain ⟨package', hPackage', hText⟩ := get?_of_ne hMembers (by decide) hPackage
  obtain rfl := hText.text_eq
  obtain ⟨rawId', hId', hSame⟩ := get?_of_ne hMembers (by decide) hId
  obtain ⟨raw', hRaw', hItems⟩ := items_of_rearranged hRaw (getD_of_ne hMembers (by decide))
  obtain ⟨gs, hgs, hAlike⟩ := exists_forall₂ hGroups hItems
    fun _ _ _ => describesGroup_of_rearranged
  have hKinds' : (gs.map Group.kind).Nodup := by rwa [map_kind_of_alike hAlike]
  exact ⟨⟨t.package, t.number, gs⟩, ofDocument_eq_ok_iff.2 ⟨ns, rawId', raw', rfl, hPackage',
    hNamed, hId', hSame.integer?_eq.trans hInt, hLow, hHigh, hRaw', hgs, hKinds'⟩,
    ⟨rfl, rfl, hAlike⟩⟩

end Document

end Resource

end ResourceSymbols
