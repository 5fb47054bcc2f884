import ResourceSymbols.Json.Value

/-!
# Association lists

Keys and their values, in the order in which the keys were first given.  A key
finds what was given for any key of the same identity; given again it takes the
new value and keeps its place, spelt as it was at first.

## Main results

* `get?_put` — looking up after `put`.
* `get?_update` — looking up after a whole list was put.
-/

namespace ResourceSymbols.Json.Association

variable {κ ι : Type} [DecidableEq ι]

/-- The value of the first key with the given identity. -/
def get? (identity : κ → ι) (members : List (κ × Value)) (i : ι) : Option Value :=
  match members with
  | [] => none
  | m :: ms => if i = identity m.1 then some m.2 else get? identity ms i

/-- Gives the key the value `v`. -/
def put (identity : κ → ι) (key : κ) (v : Value) : List (κ × Value) → List (κ × Value)
  | [] => [(key, v)]
  | m :: ms =>
    if identity m.1 = identity key then (m.1, v) :: ms else m :: put identity key v ms

/-- Puts the new members, one after the other. -/
def update (identity : κ → ι) (members new : List (κ × Value)) : List (κ × Value) :=
  new.foldl (fun ms m => put identity m.1 m.2 ms) members

/-- What is looked up stands there. -/
theorem exists_mem_of_get? {i : ι} {v : Value} (hGet : get? identity ms i = some v) :
    ∃ m ∈ ms, identity m.1 = i ∧ m.2 = v := by
  induction ms with
  | nil => cases hGet
  | cons m ms ih =>
    rw [get?] at hGet
    split at hGet
    · rename_i hKey
      exact ⟨m, List.mem_cons_self, hKey.symm, Option.some.inj hGet⟩
    · obtain ⟨n, hMem, hFound⟩ := ih hGet
      exact ⟨n, List.mem_cons_of_mem _ hMem, hFound⟩

theorem get?_append (identity : κ → ι) (ms ns : List (κ × Value)) (i : ι) :
    get? identity (ms ++ ns) i = (get? identity ms i).or (get? identity ns i) := by
  induction ms with
  | nil => rfl
  | cons m ms ih => by_cases h : i = identity m.1 <;> simp [get?, h, ih]

theorem get?_put (identity : κ → ι) (key : κ) (v : Value) (ms : List (κ × Value)) (i : ι) :
    get? identity (put identity key v ms) i =
      if i = identity key then some v else get? identity ms i := by
  induction ms with
  | nil => rfl
  | cons m ms ih =>
    by_cases h : identity m.1 = identity key
    · by_cases hi : i = identity key <;> simp [put, h, get?, hi]
    · by_cases hi : i = identity key
      · subst hi
        simp [put, h, get?, ih, Ne.symm h]
      · simp [put, h, get?, ih, hi]

/-- The last of the new members with an identity decides. -/
theorem get?_update (identity : κ → ι) (ms new : List (κ × Value)) (i : ι) :
    get? identity (update identity ms new) i =
      (get? identity new.reverse i).or (get? identity ms i) := by
  induction new generalizing ms with
  | nil => rfl
  | cons m new ih =>
    have step := ih (put identity m.1 m.2 ms)
    simp only [update, List.foldl_cons] at step ⊢
    rw [step, get?_put, List.reverse_cons, get?_append]
    cases get? identity new.reverse i with
    | some v => rfl
    | none => by_cases h : i = identity m.1 <;> simp [get?, h]

end ResourceSymbols.Json.Association
