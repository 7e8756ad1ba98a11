import Mathlib.Data.List.Fold
import Mathlib.Data.List.MinMax
import Mathlib.Order.BoundedOrder.Basic

/-!
# The worst element of a list

`worst` folds a list with `max`, starting from the least element. Its lemmas
compare the fold before and after one element is replaced, which is what an
aggregate over independently updated components goes through.
-/

namespace Lib

universe u

variable {α : Type u} [LinearOrder α] [OrderBot α]

/-- The largest element of the list, and `⊥` for the empty list. -/
def worst (l : List α) : α := l.foldl max ⊥

theorem worst_eq_foldr (l : List α) : worst l = l.foldr max ⊥ := List.foldl_eq_foldr ..

theorem le_worst {l : List α} {x : α} (h : x ∈ l) : x ≤ worst l := by
  rw [worst_eq_foldr]
  exact List.le_max_of_le h le_rfl

theorem worst_le {l : List α} {a : α} (h : ∀ x ∈ l, x ≤ a) : worst l ≤ a := by
  rw [worst_eq_foldr]
  exact List.max_le_of_forall_le l a h

/-- Above the least element, the worst element is one of the list's. -/
theorem worst_mem {l : List α} (h : worst l ≠ ⊥) : worst l ∈ l := by
  rw [worst_eq_foldr] at h ⊢
  induction l with
  | nil => exact absurd rfl h
  | cons x l ih =>
    rw [List.foldr_cons] at h ⊢
    rcases max_cases x (l.foldr max ⊥) with ⟨heq, -⟩ | ⟨heq, -⟩
    · rw [heq]
      exact List.mem_cons_self
    · rw [heq] at h ⊢
      exact List.mem_cons_of_mem x (ih h)

/-- The worst element of a non-empty list is one of its elements. -/
theorem worst_mem_of_ne_nil {l : List α} (h : l ≠ []) : worst l ∈ l := by
  by_cases hb : worst l = ⊥
  · obtain ⟨x, hx⟩ := List.exists_mem_of_ne_nil l h
    have hxb : x = ⊥ := le_bot_iff.mp (hb ▸ le_worst hx)
    rw [hb, ← hxb]
    exact hx
  · exact worst_mem hb

/-! ## Replacing one element -/

theorem le_worst_set {l : List α} {i : ℕ} (hi : i < l.length) (y : α) : y ≤ worst (l.set i y) :=
  le_worst (List.mem_set hi y)

/-- A replacement that raises the worst element is the new worst element. -/
theorem worst_set_of_lt {l : List α} {i : ℕ} {y : α} (h : worst l < worst (l.set i y)) :
    worst (l.set i y) = y := by
  have hmem : worst (l.set i y) ∈ l.set i y := worst_mem (bot_le.trans_lt h).ne'
  rcases List.mem_or_eq_of_mem_set hmem with hold | hnew
  · exact absurd (le_worst hold) (not_le.mpr h)
  · exact hnew

/-- A replacement that lowers the worst element has replaced it. -/
theorem getElem?_of_worst_set_lt {l : List α} {i : ℕ} {y : α} (h : worst (l.set i y) < worst l) :
    l[i]? = some (worst l) := by
  have hmem : worst l ∈ l := worst_mem (bot_le.trans_lt h).ne'
  obtain ⟨j, hj⟩ := List.mem_iff_getElem?.mp hmem
  by_cases hij : i = j
  · rw [hij, hj]
  · have hstays : (l.set i y)[j]? = some (worst l) := by
      rw [List.getElem?_set_ne hij, hj]
    exact absurd (le_worst (List.mem_of_getElem? hstays)) (not_le.mpr h)

end Lib
