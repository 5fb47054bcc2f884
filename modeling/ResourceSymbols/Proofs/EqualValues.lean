import ResourceSymbols.Proofs.Dictionaries
import ResourceSymbols.Proofs.Outcome
import ResourceSymbols.Proofs.TableDocument

/-!
# Equal values

Numbers are equal across their kinds, and so are objects that give the same names equal
values in whatever order.  Equal values are nested equally deep; a value that is taken out of
another as one of its pairs is less deep than it, so the two are never equal.

## Main results

* `Equal.refl`, `Equal.symm` — every value is equal to itself, and it does not matter to which
  side a value stands.
* `Equal.depth_le` — equal values are nested equally deep.
* `depth_lt_of_mem_pairs` — a value is deeper than what its pairs hold.
-/

namespace ResourceSymbols.Json.Value

open Outcome

/-! ## Equality -/

/-- Values that compare as equal. -/
inductive Equal : Value → Value → Prop
  /-- Plain values that would be one key: true is one, and one is the real 1.0. -/
  | plain {v w : Value} {k l : Key} (hv : v.key = .ok k) (hw : w.key = .ok l)
      (hSame : k.identity = l.identity) : Equal v w
  | list {vs ws : List Value} (hLength : vs.length = ws.length)
      (hItems : ∀ (i : Nat) v w, vs[i]? = some v → ws[i]? = some w → Equal v w) :
      Equal (list vs) (list ws)
  | object {ms ns : Members} (hNames : ∀ name, (ms.get? name).isSome = (ns.get? name).isSome)
      (hValues : ∀ name v w, ms.get? name = some v → ns.get? name = some w → Equal v w) :
      Equal (object ms) (object ns)

theorem Equal.symm {v w : Value} (h : Equal v w) : Equal w v := by
  induction h with
  | plain hv hw hSame => exact .plain hw hv hSame.symm
  | list hLength _ ih => exact .list hLength.symm fun i v w hv hw => ih i w v hw hv
  | object hNames _ ih =>
      exact .object (fun name => (hNames name).symm) fun name v w hv hw => ih name w v hw hv

/-! ## Depth -/

mutual

/-- How many brackets are open around the innermost part of the value. -/
def depth : Value → Nat
  | list vs => depthItems vs + 1
  | object ms => depthMembers ms + 1
  | _ => 0

/-- The depth of the deepest item. -/
def depthItems : List Value → Nat
  | [] => 0
  | v :: vs => max (depth v) (depthItems vs)

/-- The depth of the deepest member. -/
def depthMembers : List (String × Value) → Nat
  | [] => 0
  | (_, v) :: ms => max (depth v) (depthMembers ms)

end

theorem depthItems_le_iff {vs : List Value} {n : Nat} :
    depthItems vs ≤ n ↔ ∀ v ∈ vs, v.depth ≤ n := by
  induction vs with
  | nil => simp [depthItems]
  | cons v vs ih => rw [depthItems, Nat.max_le, ih, List.forall_mem_cons]

theorem depthMembers_le_iff {ms : Members} {n : Nat} :
    depthMembers ms ≤ n ↔ ∀ m ∈ ms, m.2.depth ≤ n := by
  induction ms with
  | nil => simp [depthMembers]
  | cons m ms ih => rw [depthMembers, Nat.max_le, ih, List.forall_mem_cons]

theorem depth_lt_list {vs : List Value} {v : Value} (hMem : v ∈ vs) :
    v.depth < (list vs).depth := by
  rw [depth, Nat.lt_succ_iff]
  exact depthItems_le_iff.1 (Nat.le_refl _) v hMem

theorem depth_lt_object {ms : Members} {m : String × Value} (hMem : m ∈ ms) :
    m.2.depth < (object ms).depth := by
  rw [depth, Nat.lt_succ_iff]
  exact depthMembers_le_iff.1 (Nat.le_refl _) m hMem

theorem depth_of_key {v : Value} {k : Key} (hKey : v.key = .ok k) : v.depth = 0 := by
  cases v with
  | list vs => cases hKey
  | object ms => cases hKey
  | _ => rfl

mutual

theorem Equal.refl : ∀ v : Value, Equal v v
  | .null | .bool _ | .int _ | .real _ | .text _ => .plain rfl rfl rfl
  | .list vs => by
      refine .list rfl fun i v w hv hw => ?_
      obtain rfl := Option.some.inj (hv.symm.trans hw)
      exact Equal.refl_items vs v (List.mem_of_getElem? hv)
  | .object ms => by
      refine .object (fun _ => rfl) fun name v w hv hw => ?_
      obtain rfl := Option.some.inj (hv.symm.trans hw)
      exact Equal.refl_members ms _ (Members.mem_of_get? hv)

theorem Equal.refl_items : ∀ vs : List Value, ∀ v ∈ vs, Equal v v
  | [] => List.forall_mem_nil _
  | v :: vs => List.forall_mem_cons.2 ⟨Equal.refl v, Equal.refl_items vs⟩

theorem Equal.refl_members : ∀ ms : List (String × Value), ∀ m ∈ ms, Equal m.2 m.2
  | [] => List.forall_mem_nil _
  | (_, v) :: ms => List.forall_mem_cons.2 ⟨Equal.refl v, Equal.refl_members ms⟩

end

/-- Equal values are nested equally deep; no name may hide another. -/
theorem Equal.depth_le {v w : Value} (h : Equal v w) (hKeyed : v.Keyed) : v.depth ≤ w.depth := by
  induction h with
  | plain hv hw => rw [depth_of_key hv]; exact Nat.zero_le _
  | @list vs ws hLength _ ih =>
      refine Nat.succ_le_succ (depthItems_le_iff.2 fun v hMem => ?_)
      obtain ⟨i, hi, rfl⟩ := List.mem_iff_getElem.1 hMem
      have hi' : i < ws.length := hLength ▸ hi
      have hItem := ih i vs[i] ws[i] (List.getElem?_eq_getElem hi) (List.getElem?_eq_getElem hi')
        (keyed_list_iff.1 hKeyed _ hMem)
      have hDeep := depthItems_le_iff.1 (Nat.le_refl _) ws[i] (List.getElem_mem hi')
      exact Nat.le_trans hItem hDeep
  | @object ms ns hNames _ ih =>
      refine Nat.succ_le_succ (depthMembers_le_iff.2 fun m hMem => ?_)
      obtain ⟨hNodup, hValues⟩ := keyed_object_iff.1 hKeyed
      have hHere := Members.get?_of_mem hNodup hMem
      obtain ⟨w, hThere⟩ : ∃ w, Members.get? ns m.1 = some w := by
        rw [← Option.isSome_iff_exists, ← hNames, hHere]
        rfl
      have hMember := ih m.1 m.2 w hHere hThere (hValues m hMem)
      have hDeep := depthMembers_le_iff.1 (Nat.le_refl _) _ (Members.mem_of_get? hThere)
      exact Nat.le_trans hMember hDeep

/-! ## Pairs -/

theorem depth_le_of_mem_items {v w : Value} {vs : List Value} (hItems : v.items = .ok vs)
    (hMem : w ∈ vs) : w.depth ≤ v.depth := by
  rcases within_of_items hItems hMem with ⟨rfl, -⟩ | ⟨s, rfl⟩
  · cases hItems
    exact Nat.le_of_lt (depth_lt_list hMem)
  · exact Nat.zero_le _

/-- A pair has its value from the item. -/
theorem depth_le_of_pairAt {index : Nat} {item : Value} {m : Key × Value}
    (hPair : pairAt index item = .ok m) : m.2.depth ≤ item.depth := by
  unfold pairAt at hPair
  split at hPair
  · cases hPair
  · rename_i k v hItems
    obtain ⟨key, -, rfl⟩ := map_eq_ok_iff.1 hPair
    exact depth_le_of_mem_items hItems (by simp)
  · cases hPair

theorem exists_of_mem_pairsFrom {index : Nat} {items : List Value} {ps : Dictionary}
    (hPairs : pairsFrom index items = .ok ps) {m : Key × Value} (hMem : m ∈ ps) :
    ∃ item ∈ items, ∃ i, pairAt i item = .ok m := by
  induction items generalizing index ps with
  | nil =>
      cases hPairs
      cases hMem
  | cons item rest ih =>
      obtain ⟨n, hHead, hPairs⟩ := bind_eq_ok_iff.1 hPairs
      obtain ⟨ns, hTail, hPairs⟩ := bind_eq_ok_iff.1 hPairs
      cases hPairs
      rcases List.mem_cons.1 hMem with rfl | hMem
      · exact ⟨item, List.mem_cons_self, index, hHead⟩
      · obtain ⟨other, hOther, hPair⟩ := ih hTail hMem
        exact ⟨other, List.mem_cons_of_mem _ hOther, hPair⟩

/-- A code point is no pair. -/
theorem pairAt_point (index : Nat) (p : Text.CodePoint) :
    pairAt index (text (String.ofList p.spelling)) = .error (.pairLength index 1) := by
  obtain ⟨q, hOne⟩ := Text.exists_codePoints_spelling p
  have hItems : (text (String.ofList p.spelling)).items =
      .ok [text (String.ofList q.spelling)] := by
    rw [items, String.toList_ofList, hOne]
    rfl
  rw [pairAt, hItems]
  rfl

/-- A value is deeper than what its pairs hold. -/
theorem depth_lt_of_mem_pairs {v : Value} {ps : Dictionary} (hPairs : v.pairs = .ok ps)
    {m : Key × Value} (hMem : m ∈ ps) : m.2.depth < v.depth := by
  cases v with
  | object ms =>
      cases hPairs
      obtain ⟨n, hn, rfl⟩ := List.mem_map.1 hMem
      exact depth_lt_object hn
  | list items =>
      obtain ⟨item, hItem, i, hPair⟩ := exists_of_mem_pairsFrom hPairs hMem
      exact Nat.lt_of_le_of_lt (depth_le_of_pairAt hPair) (depth_lt_list hItem)
  | text s =>
      obtain ⟨item, hItem, i, hPair⟩ := exists_of_mem_pairsFrom hPairs hMem
      obtain ⟨p, -, rfl⟩ := List.mem_map.1 hItem
      rw [pairAt_point] at hPair
      cases hPair
  | _ => cases hPairs

end ResourceSymbols.Json.Value
