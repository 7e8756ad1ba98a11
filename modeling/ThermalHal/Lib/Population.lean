import Mathlib.Data.Set.Card
import Mathlib.Logic.Function.Basic

/-!
# How many threads are in a given state

Any number of threads, each in a state of its own; a step changes the state of one of them.
`population f P` counts the threads whose state has the property `P`, and what a step does
to it depends on the one state that changes.

## Main definitions

* `population` — the number of threads whose state has a property.
* `population_update_of_enter`, `population_update_of_leave`, `population_update_of_iff` — what
  changing the state of one thread does to it.
-/

namespace Lib

universe u v

variable {τ : Type u} {α : Type v}

/-- The number of threads whose state has the property `P`. -/
noncomputable def population (f : τ → α) (P : α → Prop) : ℕ∞ := {t | P (f t)}.encard

theorem population_eq_zero_iff {f : τ → α} {P : α → Prop} :
    population f P = 0 ↔ ∀ t, ¬P (f t) := by
  simp [population, Set.encard_eq_zero, Set.eq_empty_iff_forall_notMem]

theorem one_le_population {f : τ → α} {P : α → Prop} {t : τ} (h : P (f t)) :
    1 ≤ population f P :=
  Set.one_le_encard_iff_nonempty.mpr ⟨t, h⟩

/-- A counter that is exact is positive as long as somebody is counted. -/
theorem pos_of_population_eq {f : τ → α} {P : α → Prop} {n : ℕ} (hn : population f P = n) {t : τ}
    (h : P (f t)) : 0 < n := by
  have hone := one_le_population h
  rw [hn] at hone
  exact_mod_cast hone

section Update

variable [DecidableEq τ] {f : τ → α} {P : α → Prop} {t : τ} {x : α}

/-- A thread comes to have the property. -/
theorem population_update_of_enter (h : ¬P (f t)) (hx : P x) :
    population (Function.update f t x) P = population f P + 1 := by
  have hset : {u | P (Function.update f t x u)} = insert t {u | P (f u)} := by
    ext u
    by_cases hu : u = t
    · simp [hu, hx]
    · simp [hu]
  have hnot : t ∉ {u | P (f u)} := h
  rw [population, hset, Set.encard_insert_of_notMem hnot]
  rfl

/-- It stops having it. -/
theorem population_update_of_leave (h : P (f t)) (hx : ¬P x) :
    population (Function.update f t x) P + 1 = population f P := by
  have hback := population_update_of_enter (f := Function.update f t x) (t := t) (x := f t)
    (P := P) (by simpa using hx) h
  simpa using hback.symm

/-- Counting down keeps a counter exact. -/
theorem population_update_of_leave_eq {n : ℕ} (hn : population f P = n) (h : P (f t))
    (hx : ¬P x) : population (Function.update f t x) P = (n - 1 : ℕ) := by
  have hpos : 0 < n := pos_of_population_eq hn h
  have hleft : population (Function.update f t x) P + 1 = ((n - 1 : ℕ) : ℕ∞) + 1 := by
    rw [population_update_of_leave h hx, hn]
    exact_mod_cast (Nat.sub_add_cancel hpos).symm
  exact ENat.add_left_injective_of_ne_top ENat.one_ne_top hleft

/-- The change does not concern the property. -/
theorem population_update_of_iff (h : P (f t) ↔ P x) :
    population (Function.update f t x) P = population f P := by
  have hset : {u | P (Function.update f t x u)} = {u | P (f u)} := by
    ext u
    by_cases hu : u = t
    · simp [hu, h]
    · simp [hu]
  rw [population, hset]
  rfl

end Update

end Lib
