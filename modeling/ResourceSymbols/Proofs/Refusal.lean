import ResourceSymbols.Proofs.Description

/-!
# Why no table is read

Where a document describes no table, the reader reports a fault of the document,
with two exceptions that lie in the document too.  What stands for the types, or for
the entries of a type, is gone through before its kind is looked at; and a message
that would hold an integer with too many digits cannot be put in words.

## Main results

* `exists_of_literal?_eq_none` — what cannot be shown holds an integer that cannot.
* `readEntry_refused`, `readGroup_refused` — how an entry and a group are refused.
* `ofDocument_read_or_refused` — every document is read, or refused in one of three
  ways.
* `ofDocument_stuckDocument` — not every refusal is for a fault.
-/

namespace ResourceSymbols

/-! ## Values within values -/

namespace Json.Value

/-- The first value is the second or stands somewhere in it. -/
inductive Within : Value → Value → Prop
  | self (v : Value) : Within v v
  | item {v w : Value} {vs : List Value} (hMem : w ∈ vs) (h : Within v w) :
      Within v (.list vs)
  | member {v w : Value} {key : String} {ms : Members} (hMem : (key, w) ∈ ms)
      (h : Within v w) : Within v (.object ms)

theorem Within.trans {u v w : Value} (huv : Within u v) (hvw : Within v w) : Within u w := by
  induction hvw with
  | self => exact huv
  | item hMem _ ih => exact .item hMem ih
  | member hMem _ ih => exact .member hMem ih

mutual

/-- A value without a literal form holds an integer without one. -/
theorem exists_of_literal?_eq_none : ∀ v : Value, v.literal? = none →
    ∃ n, Within (.int n) v ∧ Number.decimal? n = none
  | .null | .bool _ | .real _ | .text _ => by simp [literal?]
  | .int n => by
      intro hNone
      rw [literal?] at hNone
      exact ⟨n, .self _, hNone⟩
  | .list vs => by
      intro hNone
      rw [literal?, Option.map_eq_none_iff] at hNone
      obtain ⟨v, hMem, n, hWithin, hLong⟩ := exists_of_literals?_eq_none vs hNone
      exact ⟨n, .item hMem hWithin, hLong⟩
  | .object ms => by
      intro hNone
      rw [literal?, Option.map_eq_none_iff] at hNone
      obtain ⟨m, hMem, n, hWithin, hLong⟩ := exists_of_memberLiterals?_eq_none ms hNone
      exact ⟨n, .member hMem hWithin, hLong⟩

theorem exists_of_literals?_eq_none : ∀ vs : List Value, literals? vs = none →
    ∃ v ∈ vs, ∃ n, Within (.int n) v ∧ Number.decimal? n = none
  | [] => by simp [literals?]
  | v :: vs => by
      intro hNone
      cases hHead : v.literal? with
      | none => exact ⟨v, List.mem_cons_self, exists_of_literal?_eq_none v hHead⟩
      | some t =>
          cases hTail : literals? vs with
          | none =>
              obtain ⟨w, hMem, hLong⟩ := exists_of_literals?_eq_none vs hTail
              exact ⟨w, List.mem_cons_of_mem _ hMem, hLong⟩
          | some ts => simp [literals?, hHead, hTail] at hNone

theorem exists_of_memberLiterals?_eq_none : ∀ ms : List (String × Value),
    memberLiterals? ms = none →
    ∃ m ∈ ms, ∃ n, Within (.int n) m.2 ∧ Number.decimal? n = none
  | [] => by simp [memberLiterals?]
  | (key, v) :: ms => by
      intro hNone
      cases hHead : v.literal? with
      | none => exact ⟨(key, v), List.mem_cons_self, exists_of_literal?_eq_none v hHead⟩
      | some t =>
          cases hTail : memberLiterals? ms with
          | none =>
              obtain ⟨m, hMem, hLong⟩ := exists_of_memberLiterals?_eq_none ms hTail
              exact ⟨m, List.mem_cons_of_mem _ hMem, hLong⟩
          | some ts => simp [memberLiterals?, hHead, hTail] at hNone

end

theorem within_of_get? {ms : Members} {key : String} {v : Value}
    (hGet : Members.get? ms key = some v) : Within v (.object ms) :=
  .member (Members.mem_of_get? hGet) (.self v)

/-- What a value is gone through for stands in it, or is a text: a character or a
name. -/
theorem within_of_items {v w : Value} {vs : List Value} (hItems : v.items = .ok vs)
    (hMem : w ∈ vs) : (v = .list vs ∧ Within w v) ∨ ∃ s, w = .text s := by
  cases v with
  | list ws =>
      cases hItems
      exact .inl ⟨rfl, .item hMem (.self w)⟩
  | text s =>
      cases hItems
      obtain ⟨c, -, rfl⟩ := List.mem_map.1 hMem
      exact .inr ⟨_, rfl⟩
  | object ms =>
      cases hItems
      obtain ⟨m, -, rfl⟩ := List.mem_map.1 hMem
      exact .inr ⟨m.1, rfl⟩
  | _ => cases hItems

theorem items_eq_error {v : Value} {m : Misuse} (hItems : v.items = .error m) :
    m = .notIterable v.kindName := by
  cases v <;> cases hItems <;> rfl

end Json.Value

namespace Resource.Document

open Outcome Json.Value

/-! ## Refusals -/

/-- An integer stands in the value, as such or as a text, with too many digits to be
shown. -/
def HoldsLongInteger (v : Json.Value) : Prop :=
  ∃ w n, Within w v ∧ integer? w = some n ∧ Number.decimal? n = none

theorem HoldsLongInteger.within {v w : Json.Value} (h : HoldsLongInteger w)
    (hWithin : Within w v) : HoldsLongInteger v := by
  obtain ⟨u, n, hu, hInt, hLong⟩ := h
  exact ⟨u, n, hu.trans hWithin, hInt, hLong⟩

theorem holdsLongInteger_of_literal? {v : Json.Value} (hNone : v.literal? = none) :
    HoldsLongInteger v := by
  obtain ⟨n, hWithin, hLong⟩ := exists_of_literal?_eq_none v hNone
  exact ⟨.int n, n, hWithin, rfl, hLong⟩

/-- A value is refused for a fault that is put in words, or for an integer that cannot
be. -/
inductive Refused (v : Json.Value) : Error → Prop
  | fault (f : Fault) (hShown : f.message?.isSome = true) : Refused v (.malformed f)
  | digitLimit (hLong : HoldsLongInteger v) : Refused v (.misuse .digitLimit)

theorem Refused.within {v w : Json.Value} {e : Error} (h : Refused w e)
    (hWithin : Within w v) : Refused v e := by
  cases h with
  | fault f hShown => exact .fault f hShown
  | digitLimit hLong => exact .digitLimit (hLong.within hWithin)

theorem refused_of_refuse {α : Type} {v : Json.Value} {f : Fault} {e : Error}
    (hRefuse : (refuse f : Except Error α) = .error e)
    (hUnshown : f.message? = none → HoldsLongInteger v) : Refused v e := by
  unfold refuse at hRefuse
  cases hMessage : f.message? with
  | none =>
      rw [hMessage] at hRefuse
      cases hRefuse
      exact .digitLimit (hUnshown hMessage)
  | some m =>
      have hShown : f.message?.isSome = true := by rw [hMessage]; rfl
      rw [if_pos hShown] at hRefuse
      cases hRefuse
      exact .fault f hShown

section

variable {v : Json.Value} {e : Error}

theorem readNumber_refused {site : Site} {low high : Nat}
    (hRead : readNumber site low high v = .error e) : Refused v e := by
  unfold readNumber at hRead
  cases hInt : integer? v with
  | none =>
      rw [hInt] at hRead
      exact refused_of_refuse hRead fun hNone =>
        holdsLongInteger_of_literal? (Option.map_eq_none_iff.1 hNone)
  | some n =>
      simp only [hInt] at hRead
      split at hRead
      · cases hRead
      · refine refused_of_refuse hRead fun hNone => ⟨v, n, .self v, hInt, ?_⟩
        rw [Fault.message?, Option.map_eq_none_iff] at hNone
        exact hNone

theorem readName_refused {site : Site} (hRead : readName site v = .error e) :
    Refused v e := by
  have hUnshown : (Fault.notAName site v).message? = none → HoldsLongInteger v :=
    fun hNone => holdsLongInteger_of_literal? (Option.map_eq_none_iff.1 hNone)
  unfold readName at hRead
  split at hRead
  · split at hRead
    · exact refused_of_refuse hRead hUnshown
    · cases hRead
  · exact refused_of_refuse hRead hUnshown

theorem literal?_of_shown? (hNone : v.shown? = none) : v.literal? = none := by
  cases v with
  | text s => simp [shown?] at hNone
  | _ => simpa only [shown?] using hNone

theorem readKind_refused (hRead : readKind v = .error e) : Refused v e := by
  unfold readKind at hRead
  split at hRead
  · cases hRead
  · exact refused_of_refuse hRead fun hNone =>
      holdsLongInteger_of_literal? (literal?_of_shown? (Option.map_eq_none_iff.1 hNone))

/-! ## Entries -/

/-- The identifier of an attribute is refused for a fault in every case. -/
theorem readAttributeId_refused {slot : Slot} (hRead : readAttributeId slot v = .error e) :
    Refused v e := by
  unfold readAttributeId at hRead
  split at hRead
  · simp only at hRead
    split at hRead
    · rename_i hShown
      cases hRead
      exact .fault _ hShown
    · cases hRead
      exact .fault _ rfl
  · split at hRead
    · cases hRead
      exact .fault _ rfl
    · split at hRead
      · cases hRead
      · cases hRead
        exact .fault _ rfl

theorem readAttributeName_refused {slot : Slot}
    (hRead : readAttributeName slot v = .error e) : Refused v e := by
  rcases bind_eq_error_iff.1 hRead with hName | ⟨text, -, hRest⟩
  · exact readName_refused hName
  · split at hRest
    · cases hRest
      exact .fault _ rfl
    · split at hRest
      · cases hRest
      · cases hRest
        exact .fault _ rfl

theorem readAttribute_refused {slot : Slot} (hRead : readAttribute slot v = .error e) :
    Refused v e := by
  unfold readAttribute at hRead
  split at hRead
  · split at hRead
    · rename_i hId hName
      rcases bind_eq_error_iff.1 hRead with hStop | ⟨id, -, hRest⟩
      · exact (readAttributeId_refused hStop).within (within_of_get? hId)
      · rcases bind_eq_error_iff.1 hRest with hStop | ⟨name, -, hNever⟩
        · exact (readAttributeName_refused hStop).within (within_of_get? hName)
        · cases hNever
    · cases hRead
      exact .fault _ rfl
  · cases hRead
    exact .fault _ rfl

theorem readAttributes_refused {owner : Owner} {index : Nat} {raw : List Json.Value}
    (hRead : readAttributes owner index raw = .error e) : ∃ w ∈ raw, Refused w e := by
  induction raw generalizing index with
  | nil => cases hRead
  | cons w ws ih =>
      rcases bind_eq_error_iff.1 hRead with hHead | ⟨a, -, hRest⟩
      · exact ⟨w, List.mem_cons_self, readAttribute_refused hHead⟩
      · rcases bind_eq_error_iff.1 hRest with hTail | ⟨as, -, hNever⟩
        · obtain ⟨x, hx, hRefused⟩ := ih hTail
          exact ⟨x, List.mem_cons_of_mem _ hx, hRefused⟩
        · cases hNever

theorem readValue_refused {owner : Owner} (hRead : readValue owner v = .error e) :
    Refused v e := by
  unfold readValue at hRead
  split at hRead
  · split at hRead
    · cases hRead
    · rename_i raw hStyleable
      obtain ⟨w, hw, hRefused⟩ := readAttributes_refused (map_eq_error_iff.1 hRead)
      exact (hRefused.within (.item hw (.self w))).within (within_of_get? hStyleable)
    · cases hRead
      exact .fault _ rfl
  · cases hRead

theorem readValues_refused {owner : Owner} (hRead : readValues owner v = .error e) :
    Refused v e := by
  unfold readValues at hRead
  split at hRead
  · split at hRead
    · cases hRead
      exact .fault _ rfl
    · obtain ⟨w, hw, hStop⟩ := exists_of_mapM_eq_error hRead
      exact (readValue_refused hStop).within (.item hw (.self w))
  · cases hRead
    exact .fault _ rfl

/-- An empty list holds no integer. -/
theorem not_holdsLongInteger_nil : ¬ HoldsLongInteger (.list []) := by
  rintro ⟨w, n, hWithin, hInt, -⟩
  cases hWithin with
  | self => cases hInt
  | item hMem => cases hMem

/-- What is said of the value of a key, or of the empty list in its place, is said of
the object. -/
theorem refused_of_getD {ms : Json.Members} {key : String}
    (h : Refused ((Json.Members.get? ms key).getD (.list [])) e) : Refused (.object ms) e := by
  cases hGet : Json.Members.get? ms key with
  | some w =>
      rw [hGet] at h
      exact h.within (within_of_get? hGet)
  | none =>
      rw [hGet] at h
      cases h with
      | fault f hShown => exact .fault f hShown
      | digitLimit hLong => exact absurd hLong not_holdsLongInteger_nil

/-- An entry is refused for a fault or for an integer in it. -/
theorem readEntry_refused {kind : Kind} (hRead : readEntry kind v = .error e) :
    Refused v e := by
  unfold readEntry at hRead
  split at hRead
  · split at hRead
    · rename_i hName hId
      rcases bind_eq_error_iff.1 hRead with hStop | ⟨text, -, hRest⟩
      · exact (readName_refused hStop).within (within_of_get? hName)
      · rcases bind_eq_error_iff.1 hRest with hStop | ⟨number, -, hRest⟩
        · exact (readNumber_refused hStop).within (within_of_get? hId)
        · rcases bind_eq_error_iff.1 hRest with hStop | ⟨held, -, hNever⟩
          · exact refused_of_getD (readValues_refused hStop)
          · cases hNever
    · cases hRead
      exact .fault _ rfl
  · cases hRead
    exact .fault _ rfl

/-! ## Groups and tables -/

/-- What stands under the key in the object is gone through, and has no items. -/
def NotIterable (ms : Json.Members) (key : String) (e : Error) : Prop :=
  ∃ w, Json.Members.get? ms key = some w ∧
    w.items = .error (.notIterable w.kindName) ∧ e = .misuse (.notIterable w.kindName)

theorem notIterable_of_items {ms : Json.Members} {key : String}
    (hItems : items ((Json.Members.get? ms key).getD (.list [])) = .error e) :
    NotIterable ms key e := by
  cases hGet : Json.Members.get? ms key with
  | none =>
      rw [hGet] at hItems
      cases hItems
  | some w =>
      rw [hGet, Option.getD_some] at hItems
      unfold items at hItems
      cases hInner : w.items with
      | ok vs => simp [hInner] at hItems
      | error m =>
          obtain rfl := items_eq_error hInner
          rw [hInner] at hItems
          cases hItems
          exact ⟨w, hGet, hInner, rfl⟩

/-- The items under a key are refused as readers of items refuse them, and texts are
refused for a fault only. -/
theorem refused_of_items {ms : Json.Members} {key : String} {raw : List Json.Value}
    {w : Json.Value} (hItems : ((Json.Members.get? ms key).getD (.list [])).items = .ok raw)
    (hMem : w ∈ raw) (hText : ∀ s, w = .text s → ∃ f, f.message?.isSome = true ∧
      e = .malformed f) (hRefused : Refused w e) : Refused (.object ms) e := by
  rcases within_of_items hItems hMem with ⟨-, hWithin⟩ | ⟨s, rfl⟩
  · exact refused_of_getD (hRefused.within hWithin)
  · obtain ⟨f, hShown, rfl⟩ := hText s rfl
    exact .fault f hShown

/-- An object is met among the items under a key only where a list stands. -/
theorem get?_of_object_mem {ms inner : Json.Members} {key : String} {raw : List Json.Value}
    (hItems : ((Json.Members.get? ms key).getD (.list [])).items = .ok raw)
    (hMem : .object inner ∈ raw) : Json.Members.get? ms key = some (.list raw) := by
  rcases within_of_items hItems hMem with ⟨hList, -⟩ | ⟨s, hText⟩
  · cases hGet : Json.Members.get? ms key with
    | some w => rw [← hList, hGet, Option.getD_some]
    | none =>
        rw [hGet] at hItems
        cases hItems
        cases hMem
  · cases hText

/-- A group is refused as its entries are, or because the entries cannot be gone
through. -/
theorem readGroup_refused {seen : List Kind} (hRead : readGroup seen v = .error e) :
    Refused v e ∨ ∃ ms, v = .object ms ∧ NotIterable ms "entries" e := by
  unfold readGroup at hRead
  split at hRead
  · split at hRead
    · rename_i ms hTag hId
      rcases bind_eq_error_iff.1 hRead with hStop | ⟨kind, -, hRest⟩
      · exact .inl ((readKind_refused hStop).within (within_of_get? hTag))
      · split at hRest
        · cases hRest
          exact .inl (.fault _ rfl)
        · rcases bind_eq_error_iff.1 hRest with hStop | ⟨number, -, hRest⟩
          · exact .inl ((readNumber_refused hStop).within (within_of_get? hId))
          · rcases bind_eq_error_iff.1 hRest with hStop | ⟨raw, hRaw, hRest⟩
            · exact .inr ⟨_, rfl, notIterable_of_items hStop⟩
            · rcases bind_eq_error_iff.1 hRest with hStop | ⟨entries, -, hNever⟩
              · obtain ⟨w, hw, hEntry⟩ := exists_of_mapM_eq_error hStop
                refine .inl (refused_of_items (items_eq_ok_iff.1 hRaw) hw ?_
                  (readEntry_refused hEntry))
                rintro s rfl
                cases hEntry
                exact ⟨_, rfl, rfl⟩
              · cases hNever
    · cases hRead
      exact .inl (.fault _ rfl)
  · cases hRead
    exact .inl (.fault _ rfl)

theorem readGroups_refused {seen : List Kind} {raw : List Json.Value}
    (hRead : readGroups seen raw = .error e) :
    ∃ w ∈ raw, ∃ seen', readGroup seen' w = .error e := by
  induction raw generalizing seen with
  | nil => cases hRead
  | cons w ws ih =>
      rcases bind_eq_error_iff.1 hRead with hHead | ⟨g, -, hRest⟩
      · exact ⟨w, List.mem_cons_self, seen, hHead⟩
      · rcases bind_eq_error_iff.1 hRest with hTail | ⟨gs, -, hNever⟩
        · obtain ⟨x, hx, hStop⟩ := ih hTail
          exact ⟨x, List.mem_cons_of_mem _ hx, hStop⟩
        · cases hNever

/-- What is gone through in the document has no items: its types, or the entries of a
type in a list of types. -/
inductive Stuck (v : Json.Value) (e : Error) : Prop
  | types (ms : Json.Members) (hObject : v = .object ms) (h : NotIterable ms "types" e)
  | entries (ms inner : Json.Members) (raw : List Json.Value) (hObject : v = .object ms)
      (hTypes : Json.Members.get? ms "types" = some (.list raw))
      (hGroup : .object inner ∈ raw) (h : NotIterable inner "entries" e)

theorem ofDocument_refused (hRead : Table.ofDocument v = .error e) :
    Refused v e ∨ Stuck v e := by
  unfold Table.ofDocument at hRead
  split at hRead
  · split at hRead
    · cases hRead
      exact .inl (.fault _ rfl)
    · cases hRead
      exact .inl (.fault _ rfl)
    · rename_i ms _ _ _ _ hPackage hId
      rcases bind_eq_error_iff.1 hRead with hStop | ⟨package, -, hRest⟩
      · exact .inl ((readName_refused hStop).within (within_of_get? hPackage))
      · rcases bind_eq_error_iff.1 hRest with hStop | ⟨number, -, hRest⟩
        · exact .inl ((readNumber_refused hStop).within (within_of_get? hId))
        · rcases bind_eq_error_iff.1 hRest with hStop | ⟨raw, hRaw, hRest⟩
          · exact .inr (.types ms rfl (notIterable_of_items hStop))
          · rcases bind_eq_error_iff.1 hRest with hStop | ⟨gs, -, hNever⟩
            · obtain ⟨w, hw, seen, hGroup⟩ := readGroups_refused hStop
              have hItems := items_eq_ok_iff.1 hRaw
              rcases readGroup_refused hGroup with hRefused | ⟨inner, rfl, hEntries⟩
              · refine .inl (refused_of_items hItems hw ?_ hRefused)
                rintro s rfl
                cases hGroup
                exact ⟨_, rfl, rfl⟩
              · exact .inr (.entries ms inner raw rfl (get?_of_object_mem hItems hw) hw hEntries)
            · cases hNever
  · cases hRead
    exact .inl (.fault _ rfl)

end

/-- Whatever the document is, its reading comes to an end: a table that it describes is
read, and any other document is refused. -/
theorem ofDocument_read_or_refused (v : Json.Value) :
    (∃ t, DescribesTable v t ∧ Table.ofDocument v = .ok t) ∨
      ((∀ t, ¬ DescribesTable v t) ∧
        ∃ e, Table.ofDocument v = .error e ∧ (Refused v e ∨ Stuck v e)) := by
  cases hRead : Table.ofDocument v with
  | ok t => exact .inl ⟨t, ofDocument_eq_ok_iff.1 hRead, rfl⟩
  | error e =>
      refine .inr ⟨fun t hDescribes => ?_, e, rfl, ofDocument_refused hRead⟩
      rw [ofDocument_eq_ok_iff.2 hDescribes] at hRead
      cases hRead

/-- A document with null for the types. -/
def stuckDocument : Json.Value :=
  .object [("package", .text "app"), ("id", .int 0x7F), ("types", .null)]

/-- Not every refusal is for a fault. -/
theorem ofDocument_stuckDocument :
    Table.ofDocument stuckDocument = .error (.misuse (.notIterable "NoneType")) ∧
      ¬ ∀ v, (∃ t, Table.ofDocument v = .ok t) ∨
        ∃ f, Table.ofDocument v = .error (.malformed f) := by
  have hStuck : Table.ofDocument stuckDocument = .error (.misuse (.notIterable "NoneType")) :=
    rfl
  refine ⟨hStuck, fun hAll => ?_⟩
  rcases hAll stuckDocument with ⟨t, hRead⟩ | ⟨f, hFault⟩
  · rw [hStuck] at hRead
    cases hRead
  · rw [hStuck] at hFault
    cases hFault

end Resource.Document

end ResourceSymbols
