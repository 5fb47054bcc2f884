import Mathlib.Data.List.Forall2

/-!
# Outcomes of a reader

A reader gives a value or stops at a fault.  What is read in several steps is
taken apart here into what each step gave.

## Main results

* `bind_eq_ok_iff`, `map_eq_ok_iff`, `pure_eq_ok_iff` — one step after another.
* `bind_eq_error_iff`, `map_eq_error_iff` — one of the steps stops.
* `mapM_eq_ok_iff`, `exists_of_mapM_eq_error`, `exists_mapM_eq_ok`, `mapM_of_forall₂` — a
  list is read member by member.
* `meets_bind` — what is expected of each step is expected of both.
* `run_bind`, `run_tryCatch` — steps that keep a state, whatever comes of them.
-/

namespace ResourceSymbols.Outcome

variable {ε α β : Type}

theorem bind_eq_ok_iff {x : Except ε α} {f : α → Except ε β} {b : β} :
    (x >>= f) = .ok b ↔ ∃ a, x = .ok a ∧ f a = .ok b := by
  cases x with
  | error e => simp [bind, Except.bind]
  | ok a => simp [bind, Except.bind]

theorem map_eq_ok_iff {x : Except ε α} {f : α → β} {b : β} :
    x.map f = .ok b ↔ ∃ a, x = .ok a ∧ f a = b := by
  cases x with
  | error e => simp [Except.map]
  | ok a => simp [Except.map]

theorem pure_eq_ok_iff {a b : α} : (pure a : Except ε α) = .ok b ↔ a = b := by
  simp [pure, Except.pure]

/-- Reading a list succeeds exactly when each member is read in its place. -/
theorem mapM_eq_ok_iff {f : α → Except ε β} {xs : List α} {ys : List β} :
    xs.mapM f = .ok ys ↔ List.Forall₂ (fun x y => f x = .ok y) xs ys := by
  induction xs generalizing ys with
  | nil =>
      simp only [List.mapM_nil, pure_eq_ok_iff, List.forall₂_nil_left_iff]
      exact eq_comm
  | cons x xs ih =>
      simp only [List.mapM_cons, bind_eq_ok_iff, pure_eq_ok_iff, ih,
        List.forall₂_cons_left_iff]
      constructor
      · rintro ⟨y, hHead, ys', hTail, rfl⟩
        exact ⟨y, ys', hHead, hTail, rfl⟩
      · rintro ⟨y, ys', hHead, hTail, rfl⟩
        exact ⟨y, hHead, ys', hTail, rfl⟩

theorem bind_eq_error_iff {x : Except ε α} {f : α → Except ε β} {e : ε} :
    (x >>= f) = .error e ↔ x = .error e ∨ ∃ a, x = .ok a ∧ f a = .error e := by
  cases x with
  | error e => simp [bind, Except.bind]
  | ok a => simp [bind, Except.bind]

theorem map_eq_error_iff {x : Except ε α} {f : α → β} {e : ε} :
    x.map f = .error e ↔ x = .error e := by
  cases x with
  | error e => simp [Except.map]
  | ok a => simp [Except.map]

/-- Reading a list stops at one of its members. -/
theorem exists_of_mapM_eq_error {f : α → Except ε β} {xs : List α} {e : ε}
    (hStop : xs.mapM f = .error e) : ∃ x ∈ xs, f x = .error e := by
  induction xs with
  | nil => simp [pure, Except.pure] at hStop
  | cons x xs ih =>
      rw [List.mapM_cons, bind_eq_error_iff] at hStop
      rcases hStop with hHead | ⟨y, -, hRest⟩
      · exact ⟨x, List.mem_cons_self, hHead⟩
      · rcases bind_eq_error_iff.1 hRest with hTail | ⟨ys, -, hNever⟩
        · obtain ⟨z, hz, hStop⟩ := ih hTail
          exact ⟨z, List.mem_cons_of_mem _ hz, hStop⟩
        · cases hNever

/-- A list is read if each member is, and what holds of each value holds of all. -/
theorem exists_mapM_eq_ok {P : β → Prop} {f : α → Except ε β} {xs : List α}
    (hEach : ∀ x ∈ xs, ∃ y, f x = .ok y ∧ P y) :
    ∃ ys, xs.mapM f = .ok ys ∧ ∀ y ∈ ys, P y := by
  induction xs with
  | nil => exact ⟨[], rfl, List.forall_mem_nil P⟩
  | cons x xs ih =>
      rw [List.forall_mem_cons] at hEach
      obtain ⟨⟨y, hHead, hy⟩, hRest⟩ := hEach
      obtain ⟨ys, hTail, hAll⟩ := ih hRest
      refine ⟨y :: ys, ?_, List.forall_mem_cons.2 ⟨hy, hAll⟩⟩
      rw [List.mapM_cons, hHead, hTail]
      rfl

/-- Related lists are read alike, if related members are. -/
theorem mapM_of_forall₂ {R : α → α → Prop} {f : α → Except ε β} {xs ys : List α}
    (hItems : List.Forall₂ R xs ys) (hRead : ∀ x y, R x y → f y = f x) :
    ys.mapM f = xs.mapM f := by
  induction hItems with
  | nil => rfl
  | cons hHead _ ih => rw [List.mapM_cons, List.mapM_cons, hRead _ _ hHead, ih]

/-- Whatever stands in the second of two related lists is related to a member of
the first. -/
theorem exists_of_mem_right {R : α → β → Prop} {xs : List α} {ys : List β}
    (hRelated : List.Forall₂ R xs ys) {y : β} (hMem : y ∈ ys) :
    ∃ x ∈ xs, R x y := by
  induction hRelated with
  | nil => simp at hMem
  | cons hHead _ ih =>
      rcases List.mem_cons.1 hMem with rfl | hMem
      · exact ⟨_, List.mem_cons_self, hHead⟩
      · obtain ⟨x, hx, hRel⟩ := ih hMem
        exact ⟨x, List.mem_cons_of_mem _ hx, hRel⟩

/-! ## What is expected of an outcome -/

/-- The value is good, or the fault is one that is expected. -/
inductive Meets (good : α → Prop) (expected : ε → Prop) : Except ε α → Prop
  | ok {a : α} (h : good a) : Meets good expected (.ok a)
  | error {e : ε} (h : expected e) : Meets good expected (.error e)

section

variable {good : α → Prop} {expected : ε → Prop} {x : Except ε α}

/-- Whatever the value is, that it is the value can be expected. -/
theorem meets_of_error (hError : ∀ e, x = .error e → expected e) :
    Meets (fun a => x = .ok a) expected x := by
  cases x with
  | error e => exact .error (hError e rfl)
  | ok a => exact .ok rfl

/-- What is expected of a fault may be told in other words. -/
theorem Meets.mono (h : Meets good expected x) {others : ε → Prop}
    (hOthers : ∀ e, expected e → others e) : Meets good others x := by
  cases h with
  | error h => exact .error (hOthers _ h)
  | ok h => exact .ok h

/-- A value that is good is known to be the value. -/
theorem Meets.eq_ok (h : Meets good expected x) : Meets (fun a => x = .ok a ∧ good a) expected x := by
  cases h with
  | error h => exact .error h
  | ok h => exact .ok ⟨rfl, h⟩

theorem meets_bind {goal : β → Prop} {f : α → Except ε β} (hFirst : Meets good expected x)
    (hRest : ∀ a, good a → Meets goal expected (f a)) : Meets goal expected (x >>= f) := by
  cases hFirst with
  | error h => exact .error h
  | ok h => exact hRest _ h

theorem meets_mapError {ε' : Type} {others : ε' → Prop} {g : ε → ε'}
    (h : Meets good (fun e => others (g e)) x) : Meets good others (x.mapError g) := by
  cases h with
  | error h => exact .error h
  | ok h => exact .ok h

end

/-! ## Steps that keep a state -/

section

variable {σ : Type}

theorem run_bind (x : ExceptT ε (StateM σ) α) (f : α → ExceptT ε (StateM σ) β) (s : σ) :
    (x >>= f).run.run s =
      match x.run.run s with
      | (.ok a, s₁) => (f a).run.run s₁
      | (.error e, s₁) => (.error e, s₁) := by
  show (match x.run.run s with
    | (r, s₁) => (ExceptT.bindCont f r).run s₁) = _
  rcases x.run.run s with ⟨_ | a, s₁⟩
  · rfl
  · rfl

theorem run_tryCatch (x : ExceptT ε (StateM σ) α) (handler : ε → ExceptT ε (StateM σ) α)
    (s : σ) :
    (tryCatch x handler).run.run s =
      match x.run.run s with
      | (.ok a, s₁) => (.ok a, s₁)
      | (.error e, s₁) => (handler e).run.run s₁ := by
  show (ExceptT.tryCatch x handler).run.run s = _
  unfold ExceptT.tryCatch
  rw [ExceptT.run_mk, StateT.run_bind]
  generalize hRun : x.run.run s = r
  have hFirst : StateT.run x s = r := hRun
  rw [hFirst]
  rcases r with ⟨_ | a, s₁⟩
  · rfl
  · rfl

end

end ResourceSymbols.Outcome
