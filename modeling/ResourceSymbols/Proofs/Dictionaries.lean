import Mathlib.Data.List.Nodup
import ResourceSymbols.Json.Dictionary

/-!
# Dictionaries that give each key once

What is put into a dictionary joins it as it is, if its keys are new.  A dictionary that
gives no key twice can be looked through in any order, and one made from another by putting
is of the same kind.

## Main results

* `get?_eq_some_iff` — looking up is finding the member.
* `update_eq_append` — new members stand after the others.
* `nodup_update` — putting gives no key twice.
* `get?_update_ofMembers` — looking up after an object was put.
-/

namespace ResourceSymbols.Json

namespace Association

section

variable {κ ι : Type}

/-- What the keys are known by, in their order. -/
def identities (identity : κ → ι) (ms : List (κ × Value)) : List ι :=
  ms.map fun m => identity m.1

theorem identities_append (identity : κ → ι) (ms ns : List (κ × Value)) :
    identities identity (ms ++ ns) = identities identity ms ++ identities identity ns :=
  List.map_append

variable [DecidableEq ι] {identity : κ → ι} {ms new : List (κ × Value)}

/-- Among keys that are given once, looking up is finding the member. -/
theorem get?_eq_some_iff (hKeys : (identities identity ms).Nodup) {i : ι} {v : Value} :
    get? identity ms i = some v ↔ ∃ m ∈ ms, identity m.1 = i ∧ m.2 = v := by
  refine ⟨exists_mem_of_get?, ?_⟩
  rintro ⟨n, hMem, rfl, rfl⟩
  induction ms with
  | nil => cases hMem
  | cons m ms ih =>
      obtain ⟨hNew, hRest⟩ := List.nodup_cons.1 hKeys
      rcases List.mem_cons.1 hMem with rfl | hMem
      · exact if_pos rfl
      · have hOther : identity n.1 ≠ identity m.1 := fun hSame =>
          hNew (List.mem_map.2 ⟨n, hMem, hSame⟩)
        rw [get?, if_neg hOther]
        exact ih hRest hMem

/-- The order of the members does not matter. -/
theorem get?_reverse (hKeys : (identities identity ms).Nodup) (i : ι) :
    get? identity ms.reverse i = get? identity ms i := by
  have hReverse : (identities identity ms.reverse).Nodup := by
    unfold identities at *
    rwa [List.map_reverse, List.nodup_reverse]
  refine Option.ext fun v => ?_
  simp only [get?_eq_some_iff hKeys, get?_eq_some_iff hReverse, List.mem_reverse]

/-- A key all of whose members are kept finds what it found. -/
theorem get?_filter {p : κ × Value → Bool} {i : ι} (hKept : ∀ m ∈ ms, identity m.1 = i → p m) :
    get? identity (ms.filter p) i = get? identity ms i := by
  induction ms with
  | nil => rfl
  | cons m ms ih =>
      obtain ⟨hHead, hRest⟩ := List.forall_mem_cons.1 hKept
      by_cases hKey : i = identity m.1
      · rw [List.filter_cons_of_pos (hHead hKey.symm), get?, get?, if_pos hKey, if_pos hKey]
      · rw [List.filter_cons, get?, if_neg hKey]
        split
        · rw [get?, if_neg hKey, ih hRest]
        · exact ih hRest

theorem put_eq_append {key : κ} (hNew : identity key ∉ identities identity ms) (v : Value) :
    put identity key v ms = ms ++ [(key, v)] := by
  induction ms with
  | nil => rfl
  | cons m ms ih =>
      obtain ⟨hOther, hRest⟩ := not_or.1 (List.mem_cons.not.1 hNew)
      rw [put, if_neg (Ne.symm hOther), ih hRest, List.cons_append]

omit [DecidableEq ι] in
theorem not_mem_of_nodup {m : κ × Value} (hKeys : (identities identity (ms ++ m :: new)).Nodup) :
    identity m.1 ∉ identities identity ms := by
  rw [identities_append, List.nodup_append] at hKeys
  intro hMem
  exact hKeys.2.2 _ hMem _ List.mem_cons_self rfl

/-- Members with new keys stand after the others. -/
theorem update_eq_append (hKeys : (identities identity (ms ++ new)).Nodup) :
    update identity ms new = ms ++ new := by
  induction new generalizing ms with
  | nil => rw [List.append_nil, update, List.foldl_nil]
  | cons m new ih =>
      have hNew := not_mem_of_nodup hKeys
      rw [List.append_cons] at hKeys ⊢
      rw [update, List.foldl_cons, put_eq_append hNew]
      exact ih hKeys

/-- What stands there afterwards has the value, or stood there before. -/
theorem mem_put {key : κ} {v : Value} {m : κ × Value} (hMem : m ∈ put identity key v ms) :
    m.2 = v ∨ m ∈ ms := by
  induction ms with
  | nil =>
      rw [put, List.mem_singleton] at hMem
      exact .inl (congrArg Prod.snd hMem)
  | cons n ms ih =>
      rw [put] at hMem
      split at hMem
      · rcases List.mem_cons.1 hMem with rfl | hMem
        · exact .inl rfl
        · exact .inr (List.mem_cons_of_mem _ hMem)
      · rcases List.mem_cons.1 hMem with rfl | hMem
        · exact .inr List.mem_cons_self
        · exact (ih hMem).imp_right (List.mem_cons_of_mem _)

theorem mem_update {m : κ × Value} (hMem : m ∈ update identity ms new) :
    (∃ n ∈ new, m.2 = n.2) ∨ m ∈ ms := by
  induction new generalizing ms with
  | nil => exact .inr hMem
  | cons n new ih =>
      rcases ih hMem with ⟨o, hOther, hValue⟩ | hMem
      · exact .inl ⟨o, List.mem_cons_of_mem _ hOther, hValue⟩
      · exact (mem_put hMem).imp_left fun hValue => ⟨n, List.mem_cons_self, hValue⟩

/-- A key that was there keeps its place. -/
theorem identities_put_of_mem {key : κ} (hMem : identity key ∈ identities identity ms)
    (v : Value) : identities identity (put identity key v ms) = identities identity ms := by
  induction ms with
  | nil => cases hMem
  | cons m ms ih =>
      rw [put]
      split
      · rfl
      · rename_i hOther
        have hRest := (List.mem_cons.1 hMem).resolve_left (Ne.symm hOther)
        exact congrArg (identity m.1 :: ·) (ih hRest)

theorem nodup_put (hKeys : (identities identity ms).Nodup) (key : κ) (v : Value) :
    (identities identity (put identity key v ms)).Nodup := by
  by_cases hMem : identity key ∈ identities identity ms
  · rwa [identities_put_of_mem hMem]
  · rw [put_eq_append hMem, identities_append]
    refine List.nodup_append.2 ⟨hKeys, List.nodup_singleton _, fun i hi j hj hSame => ?_⟩
    rw [hSame, List.mem_singleton.1 hj] at hi
    exact hMem hi

/-- Putting gives no key twice. -/
theorem nodup_update (hKeys : (identities identity ms).Nodup) (new : List (κ × Value)) :
    (identities identity (update identity ms new)).Nodup := by
  induction new generalizing ms with
  | nil => exact hKeys
  | cons m new ih => exact ih (nodup_put hKeys m.1 m.2)

end

end Association

theorem Members.get?_of_mem {ms : Members} (hNames : (ms.map Prod.fst).Nodup)
    {m : String × Value} (hMem : m ∈ ms) : ms.get? m.1 = some m.2 := by
  have hKeys : (Association.identities id ms).Nodup := hNames
  exact (Association.get?_eq_some_iff hKeys).2 ⟨m, hMem, rfl, rfl⟩

/-- A member with a new name stands after the others. -/
theorem Members.put_eq_append {ms new : Members} {name : String} {v : Value}
    (hNames : ((ms ++ (name, v) :: new).map Prod.fst).Nodup) :
    ms.put name v = ms ++ [(name, v)] := by
  have hKeys : (Association.identities id (ms ++ (name, v) :: new)).Nodup := hNames
  exact Association.put_eq_append (Association.not_mem_of_nodup hKeys) v

namespace Dictionary

/-- No key is given twice. -/
def Keyed (d : Dictionary) : Prop := (Association.identities Key.identity d).Nodup

theorem keyed_ofMembers {members : Members} (hNames : (members.map Prod.fst).Nodup) :
    Keyed (ofMembers members) := by
  have hTexts : (members.map Prod.fst).map Identity.text =
      Association.identities Key.identity (ofMembers members) := by
    simp [Association.identities, ofMembers, Key.identity]
  rw [Keyed, ← hTexts]
  exact hNames.map fun _ _ => Identity.text.inj

theorem ofMembers_put (name : String) (v : Value) (members : Members) :
    ofMembers (members.put name v) =
      Association.put Key.identity (.text name) v (ofMembers members) := by
  induction members with
  | nil => rfl
  | cons m ms ih =>
      by_cases hSame : m.1 = name
      · simp [Members.put, Association.put, ofMembers, Key.identity, hSame]
      · simpa [Members.put, Association.put, ofMembers, Key.identity, hSame] using ih

/-- Members are put as the keys that they are. -/
theorem ofMembers_update (members new : Members) :
    ofMembers (members.update new) = (ofMembers members).update (ofMembers new) := by
  induction new generalizing members with
  | nil => rfl
  | cons m new ih =>
      have hRest := ih (members.put m.1 m.2)
      rwa [ofMembers_put] at hRest

/-- What is made of an object is written as that object. -/
theorem members?_ofMembers (members : Members) : (ofMembers members).members? = some members := by
  induction members with
  | nil => rfl
  | cons m ms ih =>
      unfold members? ofMembers at ih ⊢
      rw [List.map_cons, List.mapM_cons, ih]
      rfl

theorem Keyed.update {d : Dictionary} (h : d.Keyed) (new : Dictionary) : (d.update new).Keyed :=
  Association.nodup_update h new

theorem Keyed.filter {d : Dictionary} (h : d.Keyed) (p : Key × Value → Bool) :
    Keyed (List.filter p d) :=
  List.Nodup.sublist (List.filter_sublist.map _) h

theorem Keyed.get?_reverse {d : Dictionary} (h : d.Keyed) (key : Key) :
    get? d.reverse key = get? d key :=
  Association.get?_reverse h key.identity

/-- What an object gives wins over what was there. -/
theorem get?_update_ofMembers (d : Dictionary) {members : Members}
    (hNames : (members.map Prod.fst).Nodup) (name : String) :
    get? (d.update (ofMembers members)) (.text name) =
      (members.get? name).or (get? d (.text name)) := by
  rw [get?_update, (keyed_ofMembers hNames).get?_reverse, get?_ofMembers]

end Dictionary

end ResourceSymbols.Json
