import Mathlib.Data.List.Count
import Mathlib.Tactic.Ring
import ThermalHal.Lib.Population

/-!
# Resources in custody

Threads create resources, put them into one shared slot, take them out of it and release
them. At every moment a resource is in one place: in the hand of one thread, in the slot,
or released. Counting the places gives a balance that every step keeps, so nothing is
released twice, and when no thread holds anything, everything but the content of the slot
has been released.

## Main definitions

* `Custody`, `CustodyMove` — the moves, and the log of what is created and released.
* `Custody.Accounted` — the invariant that places every resource.
* `Custody.Accounted.released_le_one`, `Custody.Accounted.released_of_created` — what follows.
-/

namespace Lib

universe u

variable {τ : Type u}

/-- The resources created so far are those below `next`. -/
structure Custody (τ : Type u) where
  next : ℕ
  slot : Option ℕ
  hand : τ → Option ℕ

inductive CustodyEvent
  | created (x : ℕ)
  | released (x : ℕ)
  deriving DecidableEq

/-- Nothing has been created. -/
def Custody.empty : Custody τ := ⟨0, none, fun _ => none⟩

/-- Every resource was created once and is in one place. -/
structure Custody.Accounted (log : List CustodyEvent) (c : Custody τ) : Prop where
  created : ∀ x, log.count (.created x) = if x < c.next then 1 else 0
  balance : ∀ x, (log.count (.created x) : ℕ∞) =
    (if c.slot = some x then 1 else 0) + population c.hand (· = some x) + log.count (.released x)

namespace Custody

theorem accounted_empty : Accounted [] (empty : Custody τ) where
  created := by simp [empty]
  balance x := by
    have hhands : population (empty : Custody τ).hand (· = some x) = 0 :=
      population_eq_zero_iff.mpr (by simp [empty])
    rw [hhands]
    simp [empty]

end Custody

/-! ## Moves -/

section Moves

variable [DecidableEq τ]

/-- One step: nothing happens, or one thread makes a move. -/
inductive CustodyMove (c : Custody τ) : Custody τ → List CustodyEvent → Prop
  | still : CustodyMove c c []
  | create (t : τ) (h : c.hand t = none) :
      CustodyMove c { c with next := c.next + 1, hand := Function.update c.hand t (some c.next) }
        [.created c.next]
  | put (t : τ) (x : ℕ) (h : c.hand t = some x) (hslot : c.slot = none) :
      CustodyMove c { c with slot := some x, hand := Function.update c.hand t none } []
  | take (t : τ) (x : ℕ) (h : c.hand t = none) (hslot : c.slot = some x) :
      CustodyMove c { c with slot := none, hand := Function.update c.hand t (some x) } []
  | release (t : τ) (x : ℕ) (h : c.hand t = some x) :
      CustodyMove c { c with hand := Function.update c.hand t none } [.released x]

namespace Custody

variable {log : List CustodyEvent} {c : Custody τ} {t : τ} {x : ℕ}

theorem Accounted.create (h : c.Accounted log) (hhand : c.hand t = none) :
    Accounted (log ++ [.created c.next])
      { c with next := c.next + 1, hand := Function.update c.hand t (some c.next) } where
  created x := by
    have hcount := h.created x
    by_cases hx : x = c.next
    · simp [hx] at hcount
      simp [hx, hcount]
    · have hlt : x < c.next + 1 ↔ x < c.next := by omega
      have hne : ¬c.next = x := Ne.symm hx
      simp [hlt, hne, hcount]
  balance x := by
    have hbalance := h.balance x
    by_cases hx : x = c.next
    · subst hx
      rw [population_update_of_enter (P := (· = some c.next)) (by simp [hhand]) rfl]
      simp [hbalance]
      ring
    · have hne : ¬c.next = x := Ne.symm hx
      rw [population_update_of_iff (by simp [hhand, hne])]
      simpa [hne] using hbalance

theorem Accounted.put (h : c.Accounted log) (hhand : c.hand t = some x) (hslot : c.slot = none) :
    Accounted log { c with slot := some x, hand := Function.update c.hand t none } where
  created := h.created
  balance y := by
    have hbalance := h.balance y
    by_cases hy : x = y
    · subst hy
      rw [← population_update_of_leave (t := t) (x := none) hhand (by simp)] at hbalance
      simp [hslot] at hbalance
      simp [hbalance]
      ring
    · rw [population_update_of_iff (by simp [hhand, hy])]
      simpa [hslot, hy] using hbalance

theorem Accounted.take (h : c.Accounted log) (hhand : c.hand t = none) (hslot : c.slot = some x) :
    Accounted log { c with slot := none, hand := Function.update c.hand t (some x) } where
  created := h.created
  balance y := by
    have hbalance := h.balance y
    by_cases hy : x = y
    · subst hy
      rw [population_update_of_enter (P := (· = some x)) (by simp [hhand]) rfl]
      simp [hslot] at hbalance
      simp [hbalance]
      ring
    · rw [population_update_of_iff (by simp [hhand, hy])]
      simpa [hslot, hy] using hbalance

theorem Accounted.release (h : c.Accounted log) (hhand : c.hand t = some x) :
    Accounted (log ++ [.released x]) { c with hand := Function.update c.hand t none } where
  created y := by simpa using h.created y
  balance y := by
    have hbalance := h.balance y
    by_cases hy : x = y
    · subst hy
      rw [← population_update_of_leave (t := t) (x := none) hhand (by simp)] at hbalance
      simp [hbalance]
      ring
    · rw [population_update_of_iff (by simp [hhand, hy])]
      simpa [hy] using hbalance

/-- **Every resource stays in one place.** -/
theorem Accounted.move {events : List CustodyEvent} {c' : Custody τ} (h : c.Accounted log)
    (hmove : CustodyMove c c' events) : c'.Accounted (log ++ events) := by
  cases hmove with
  | still => simpa using h
  | create t hhand => exact h.create hhand
  | put t x hhand hslot => simpa using h.put hhand hslot
  | take t x hhand hslot => simpa using h.take hhand hslot
  | release t x hhand => exact h.release hhand

end Custody

end Moves

/-! ## What the places say -/

namespace Custody.Accounted

variable {log : List CustodyEvent} {c : Custody τ} {x : ℕ}

theorem created_le_one (h : c.Accounted log) : log.count (.created x) ≤ 1 := by
  rw [h.created x]
  split <;> omega

theorem created_mem_iff (h : c.Accounted log) : .created x ∈ log ↔ x < c.next := by
  rw [← List.count_pos_iff, h.created x]
  split <;> simp_all

/-- **Nothing is released twice.** -/
theorem released_le_one (h : c.Accounted log) : log.count (.released x) ≤ 1 := by
  have hle : (log.count (.released x) : ℕ∞) ≤ log.count (.created x) := by
    rw [h.balance x]
    exact le_add_self
  exact le_trans (by exact_mod_cast hle) h.created_le_one

/-- What a thread holds has been created and not been released. -/
theorem of_hand (h : c.Accounted log) {t : τ} (hhand : c.hand t = some x) :
    x < c.next ∧ .released x ∉ log := by
  have hheld : 1 ≤ population c.hand (· = some x) := one_le_population hhand
  have hle : ((1 + log.count (.released x) : ℕ) : ℕ∞) ≤ log.count (.created x) := by
    rw [h.balance x]
    push_cast
    gcongr
    exact le_add_left hheld
  have hcount : 1 + log.count (.released x) ≤ log.count (.created x) := by exact_mod_cast hle
  have hcreated := h.created_le_one (x := x)
  rw [← h.created_mem_iff, ← List.count_pos_iff, ← List.count_eq_zero]
  omega

/-- **With empty hands everything created is in the slot or released.** -/
theorem released_of_created (h : c.Accounted log) (hhands : ∀ t, c.hand t = none)
    (hcreated : .created x ∈ log) (hslot : c.slot ≠ some x) : .released x ∈ log := by
  have hnobody : population c.hand (· = some x) = 0 :=
    population_eq_zero_iff.mpr (by simp [hhands])
  have hbalance := h.balance x
  rw [hnobody, if_neg hslot, zero_add, zero_add] at hbalance
  have hcount : log.count (.created x) = log.count (.released x) := by exact_mod_cast hbalance
  rw [← List.count_pos_iff] at hcreated ⊢
  omega

end Custody.Accounted

end Lib
