import ResourceSymbols.Json.Reader
import ResourceSymbols.Proofs.Dictionaries
import ResourceSymbols.Proofs.Outcome
import ResourceSymbols.Proofs.TableDocument

/-!
# Keys in documents

A name that a document repeats takes the later value, so that no object in what is read
gives a name twice.

## Main results

* `keyedFrom` — so it is for values, items and members, whatever the measure is.
* `keyed_of_read` — so it is for the whole document.
-/

namespace ResourceSymbols.Json

open Outcome

namespace Value

/-- A number holds no object. -/
theorem keyed_number {limits : Option Limits} {cs rest : List Char} {v : Value}
    (hNumber : Reader.number limits cs = .ok (v, rest)) : v.Keyed := by
  unfold Reader.number at hNumber
  dsimp only at hNumber
  repeat' split at hNumber
  all_goals cases hNumber
  all_goals rintro members ⟨⟩

/-- A member that is put takes the place of one of its name. -/
theorem keyed_put {before : Members} {v : Value} (hBefore : (object before).Keyed) (hv : v.Keyed)
    (name : String) : (object (Members.put name v before)).Keyed := by
  obtain ⟨hNames, hValues⟩ := keyed_object_iff.1 hBefore
  have hKeys : (Association.identities id before).Nodup := hNames
  refine keyed_object_iff.2 ⟨Association.nodup_put hKeys name v, fun m hMem => ?_⟩
  rcases Association.mem_put hMem with hValue | hMem
  · rwa [hValue]
  · exact hValues m hMem

end Value

namespace Reader

/-- With the measure, no object in what is read gives a name twice. -/
structure KeyedFrom (limits : Option Limits) (fuel : Nat) : Prop where
  value : ∀ {depth cs v rest}, value limits depth fuel cs = .ok (v, rest) → v.Keyed
  items : ∀ {depth cs vs rest}, items limits depth fuel cs = .ok (vs, rest) →
    (Value.list vs).Keyed
  members : ∀ {depth before cs ms rest}, members limits depth fuel before cs = .ok (ms, rest) →
    (Value.object before).Keyed → (Value.object ms).Keyed

variable {limits : Option Limits}

theorem keyed_value {fuel : Nat} (ih : KeyedFrom limits fuel) {depth : Nat}
    {cs rest : List Char} {v : Value} (hRead : value limits depth (fuel + 1) cs = .ok (v, rest)) :
    v.Keyed := by
  unfold value at hRead
  split at hRead
  · obtain ⟨r, -, hResult⟩ := map_eq_ok_iff.1 hRead
    cases hResult
    exact Value.keyed_text _
  · split at hRead
    · cases hRead
    · split at hRead
      · cases hRead
        exact Value.keyed_object_iff.2 ⟨List.nodup_nil, List.forall_mem_nil _⟩
      · obtain ⟨r, hMembers, hResult⟩ := map_eq_ok_iff.1 hRead
        cases hResult
        exact ih.members hMembers (Value.keyed_object_iff.2 ⟨List.nodup_nil, List.forall_mem_nil _⟩)
  · split at hRead
    · cases hRead
    · split at hRead
      · cases hRead
        exact Value.keyed_list_iff.2 (List.forall_mem_nil _)
      · obtain ⟨r, hItems, hResult⟩ := map_eq_ok_iff.1 hRead
        cases hResult
        exact ih.items hItems
  all_goals first
    | exact Value.keyed_number hRead
    | cases hRead; rintro members ⟨⟩

theorem keyed_items {fuel : Nat} (ih : KeyedFrom limits fuel) {depth : Nat}
    {cs rest : List Char} {vs : List Value}
    (hRead : items limits depth (fuel + 1) cs = .ok (vs, rest)) : (Value.list vs).Keyed := by
  unfold items at hRead
  obtain ⟨⟨v, afterValue⟩, hValue, hRead⟩ := bind_eq_ok_iff.1 hRead
  have hv := ih.value hValue
  dsimp only at hRead
  split at hRead
  · cases hRead
    exact Value.keyed_list_iff.2 (List.forall_mem_singleton.2 hv)
  · obtain ⟨⟨ws, afterItems⟩, hItems, hRead⟩ := bind_eq_ok_iff.1 hRead
    cases hRead
    exact Value.keyed_list_iff.2
      (List.forall_mem_cons.2 ⟨hv, Value.keyed_list_iff.1 (ih.items hItems)⟩)
  · cases hRead

theorem keyed_members {fuel : Nat} (ih : KeyedFrom limits fuel) {depth : Nat}
    {cs rest : List Char} {before ms : Members}
    (hRead : members limits depth (fuel + 1) before cs = .ok (ms, rest))
    (hBefore : (Value.object before).Keyed) : (Value.object ms).Keyed := by
  unfold members at hRead
  split at hRead
  · obtain ⟨⟨name, afterName⟩, -, hRead⟩ := bind_eq_ok_iff.1 hRead
    dsimp only at hRead
    split at hRead
    · obtain ⟨⟨v, afterValue⟩, hValue, hRead⟩ := bind_eq_ok_iff.1 hRead
      have hAll := Value.keyed_put hBefore (ih.value hValue) (String.ofList name)
      dsimp only at hRead
      split at hRead
      · cases hRead
        exact hAll
      · exact ih.members hRead hAll
      · cases hRead
    · cases hRead
  · cases hRead

theorem keyedFrom (fuel : Nat) : KeyedFrom limits fuel := by
  induction fuel with
  | zero => exact ⟨nofun, nofun, nofun⟩
  | succ fuel ih => exact ⟨keyed_value ih, keyed_items ih, keyed_members ih⟩

end Reader

/-- No object in a document that is read gives a name twice. -/
theorem Value.keyed_of_read {text : List Char} {v : Value} (hRead : Value.read text = .ok v) :
    v.Keyed := by
  unfold Value.read Reader.document at hRead
  split at hRead
  · cases hRead
  · split at hRead
    · cases hRead
    · rename_i hValue
      split at hRead
      · cases hRead
        exact (Reader.keyedFrom _).value hValue
      · cases hRead

end ResourceSymbols.Json
