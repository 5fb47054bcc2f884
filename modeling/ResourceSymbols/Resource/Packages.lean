import ResourceSymbols.Resource.Table

/-!
# The packages of a table

A table has its own package and those that its mangled entries come from.

## Main results

* `mem_packages` — which packages these are.
* `pairwise_packages_tail` — after the own one, they ascend.
-/

namespace ResourceSymbols.Resource

/-- Puts a text into an ascending list, unless it is there already. -/
def insertAscending (s : String) : List String → List String
  | [] => [s]
  | t :: ts => if s < t then s :: t :: ts else if s = t then t :: ts else t :: insertAscending s ts

/-- The packages of origin that the mangled names among the entries give. -/
def Table.origins (t : Table) : List String :=
  (t.groups.flatMap Group.entries).filterMap fun e => (unmangle? e.name).map Unmangled.origin

/-- The own package, and after it the other packages of origin in ascending
order. -/
def Table.packages (t : Table) : List String :=
  t.package :: (t.origins.filter (· ≠ t.package)).foldr insertAscending []

theorem mem_insertAscending {s x : String} {l : List String} :
    x ∈ insertAscending s l ↔ x = s ∨ x ∈ l := by
  induction l with
  | nil => simp [insertAscending]
  | cons t ts ih =>
    simp only [insertAscending]
    split
    · simp
    · split
      · next h => subst h; simp
      · simp only [List.mem_cons, ih]
        exact or_left_comm

theorem pairwise_insertAscending {s : String} {l : List String} (h : l.Pairwise (· < ·)) :
    (insertAscending s l).Pairwise (· < ·) := by
  induction l with
  | nil => simp [insertAscending]
  | cons t ts ih =>
    simp only [List.pairwise_cons] at h
    simp only [insertAscending]
    split
    · next hs =>
      simp only [List.pairwise_cons, List.mem_cons, forall_eq_or_imp]
      exact ⟨⟨hs, fun a ha => String.lt_trans hs (h.1 a ha)⟩, h⟩
    · split
      · exact List.pairwise_cons.2 h
      · next hs hne =>
        simp only [List.pairwise_cons, mem_insertAscending, forall_eq_or_imp]
        exact ⟨⟨Std.lt_of_le_of_ne hs (Ne.symm hne), h.1⟩, ih h.2⟩

theorem mem_foldr_insertAscending {x : String} {l : List String} :
    x ∈ l.foldr insertAscending [] ↔ x ∈ l := by
  induction l with
  | nil => simp
  | cons s l ih => simp [mem_insertAscending, ih]

theorem mem_packages {t : Table} {p : String} : p ∈ t.packages ↔ p = t.package ∨ p ∈ t.origins := by
  simp only [Table.packages, List.mem_cons, mem_foldr_insertAscending, List.mem_filter,
    decide_eq_true_eq]
  by_cases h : p = t.package <;> simp [h]

theorem pairwise_packages_tail (t : Table) : t.packages.tail.Pairwise (· < ·) := by
  simp only [Table.packages, List.tail_cons]
  induction t.origins.filter (· ≠ t.package) with
  | nil => simp
  | cons s l ih => exact pairwise_insertAscending ih

end ResourceSymbols.Resource
