import Mathlib.Order.Lattice
import Mathlib.Data.List.Basic

/-!
# Hysteresis over a history of samples

A quantity is sampled, an upper threshold `hi` switches an alarm on and a lower
threshold `lo` switches it off; between the two the alarm keeps its value. `Hot`
says from the history alone that the alarm is on. The recurrence `hot_concat` is
the incremental form: whether a history is hot is decided by its last sample and
by whether it was hot before.
-/

namespace Lib

universe u

variable {α : Type u} [LinearOrder α]

/-- The history `xs` (oldest first) contains a sample at or above `hi` after which
every sample stayed above `lo`. -/
def Hot (lo hi : α) (xs : List α) : Prop :=
  ∃ pre x post, xs = pre ++ x :: post ∧ hi ≤ x ∧ ∀ y ∈ post, lo < y

theorem not_hot_nil (lo hi : α) : ¬ Hot lo hi [] := by
  rintro ⟨pre, x, post, h, -⟩
  simp at h

/-- **The incremental form of `Hot`.** -/
theorem hot_concat (lo hi : α) (xs : List α) (t : α) :
    Hot lo hi (xs ++ [t]) ↔ hi ≤ t ∨ (Hot lo hi xs ∧ lo < t) := by
  constructor
  · rintro ⟨pre, x, post, heq, hx, hpost⟩
    rcases List.eq_nil_or_concat post with rfl | ⟨init, y, rfl⟩
    · obtain ⟨-, h⟩ := List.append_inj' heq rfl
      obtain ⟨rfl, -⟩ := List.cons.inj h
      exact Or.inl hx
    · rw [List.concat_eq_append, ← List.cons_append, ← List.append_assoc] at heq
      obtain ⟨rfl, h⟩ := List.append_inj' heq rfl
      obtain ⟨rfl, -⟩ := List.cons.inj h
      rw [List.concat_eq_append] at hpost
      refine Or.inr ⟨⟨pre, x, init, rfl, hx, ?_⟩, ?_⟩
      · intro z hz
        exact hpost z (List.mem_append_left _ hz)
      · exact hpost t (List.mem_append_right _ (List.mem_singleton_self t))
  · rintro (h | ⟨⟨pre, x, post, rfl, hx, hpost⟩, ht⟩)
    · exact ⟨xs, t, [], rfl, h, by simp⟩
    · refine ⟨pre, x, post ++ [t], by simp, hx, ?_⟩
      intro y hy
      rcases List.mem_append.mp hy with hy | hy
      · exact hpost y hy
      · rw [List.mem_singleton.mp hy]
        exact ht

theorem hot_cons (lo hi : α) (x : α) (xs : List α) :
    Hot lo hi (x :: xs) ↔ (hi ≤ x ∧ ∀ y ∈ xs, lo < y) ∨ Hot lo hi xs := by
  constructor
  · rintro ⟨pre, z, post, heq, hz, hpost⟩
    cases pre with
    | nil =>
      obtain ⟨rfl, rfl⟩ := List.cons.inj heq
      exact Or.inl ⟨hz, hpost⟩
    | cons w pre =>
      obtain ⟨rfl, rfl⟩ := List.cons.inj heq
      exact Or.inr ⟨pre, z, post, rfl, hz, hpost⟩
  · rintro (⟨hx, hxs⟩ | ⟨pre, z, post, rfl, hz, hpost⟩)
    · exact ⟨[], x, xs, rfl, hx, hxs⟩
    · exact ⟨x :: pre, z, post, rfl, hz, hpost⟩

/-- The history predicate is executable, front to back. -/
instance decidableHot (lo hi : α) : ∀ xs : List α, Decidable (Hot lo hi xs)
  | [] => isFalse (not_hot_nil lo hi)
  | x :: xs =>
      haveI := decidableHot lo hi xs
      decidable_of_iff _ (hot_cons lo hi x xs).symm

end Lib
