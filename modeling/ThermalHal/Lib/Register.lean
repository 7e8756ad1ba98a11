import Mathlib.Data.Nat.Find
import Mathlib.Logic.Function.Basic
import ThermalHal.Lib.Machine

/-!
# Latest-value registers

One register for each key. A write stores a value, replacing what the register holds, and
a take empties it and emits what it held. Positions of a run stand for the values written
there: what becomes of a write is decided by the next position that touches its key.

## Main definitions

* `RegisterStep`, `registers` — the machine.
* `RegisterStep.TouchedAt`, `RegisterStep.Untouched` — the positions that touch a key.
* `registers_eq_some_iff` — a register holds the value of the last write to it, if nothing
  has touched it since.
* `write_fate` — a write is still held, taken or overwritten.
-/

namespace Lib

universe u v

/-- One input of the registers. -/
inductive RegisterStep (κ : Type u) (β : Type v)
  | skip
  | write (k : κ) (v : β)
  | take (k : κ)

variable {κ : Type u} {β : Type v}

namespace RegisterStep

/-- A step writes or takes the register of `k`. -/
def touches (k : κ) : RegisterStep κ β → Prop
  | .skip => False
  | .write k' _ => k' = k
  | .take k' => k' = k

/-- Position `n` of a run touches `k`. -/
def TouchedAt (steps : List (RegisterStep κ β)) (k : κ) (n : ℕ) : Prop :=
  ∃ step, steps[n]? = some step ∧ step.touches k

/-- No position strictly between `m` and `n` touches `k`. -/
def Untouched (steps : List (RegisterStep κ β)) (k : κ) (m n : ℕ) : Prop :=
  ∀ l, m < l → l < n → ¬ TouchedAt steps k l

theorem TouchedAt.lt_length {steps : List (RegisterStep κ β)} {k : κ} {n : ℕ}
    (h : TouchedAt steps k n) : n < steps.length := by
  obtain ⟨step, hstep, -⟩ := h
  exact (List.getElem?_eq_some_iff.mp hstep).1

theorem touchedAt_of_write {steps : List (RegisterStep κ β)} {k : κ} {v : β} {n : ℕ}
    (h : steps[n]? = some (.write k v)) : TouchedAt steps k n := ⟨_, h, rfl⟩

theorem touchedAt_of_take {steps : List (RegisterStep κ β)} {k : κ} {n : ℕ}
    (h : steps[n]? = some (.take k)) : TouchedAt steps k n := ⟨_, h, rfl⟩

/-- Positions before `n` touch the same keys in a run and in its first `n` steps. -/
theorem touchedAt_take {steps : List (RegisterStep κ β)} {k : κ} {l n : ℕ} (hl : l < n) :
    TouchedAt (steps.take n) k l ↔ TouchedAt steps k l := by
  rw [TouchedAt, TouchedAt, List.getElem?_take_of_lt hl]

theorem touchedAt_concat {steps : List (RegisterStep κ β)} (step : RegisterStep κ β) {k : κ}
    {l : ℕ} (hl : l < steps.length) :
    TouchedAt (steps ++ [step]) k l ↔ TouchedAt steps k l := by
  rw [TouchedAt, TouchedAt, List.getElem?_append_left hl]

theorem touchedAt_concat_length {steps : List (RegisterStep κ β)} {step : RegisterStep κ β}
    {k : κ} : TouchedAt (steps ++ [step]) k steps.length ↔ step.touches k := by
  simp [TouchedAt]

/-- One more step leaves a key untouched if it does not touch it itself. -/
theorem untouched_concat {steps : List (RegisterStep κ β)} {step : RegisterStep κ β} {k : κ}
    {m : ℕ} (hm : m < steps.length) :
    Untouched (steps ++ [step]) k m (steps.length + 1) ↔
      Untouched steps k m steps.length ∧ ¬step.touches k := by
  constructor
  · intro h
    constructor
    · intro l hl hlt htouched
      exact h l hl (by omega) ((touchedAt_concat step hlt).mpr htouched)
    · intro htouch
      exact h steps.length hm (by omega) (touchedAt_concat_length.mpr htouch)
  · rintro ⟨h, hstep⟩ l hl hlt htouched
    rcases Nat.lt_succ_iff_lt_or_eq.mp hlt with hlt' | rfl
    · exact h l hl hlt' ((touchedAt_concat step hlt').mp htouched)
    · exact hstep (touchedAt_concat_length.mp htouched)

/-- The last write to a key in a longer run is its last step or, if that does not touch the
key, the last write before it. -/
theorem exists_lastWrite_concat {steps : List (RegisterStep κ β)} {step : RegisterStep κ β}
    {k : κ} {v : β} :
    (∃ m, (steps ++ [step])[m]? = some (.write k v) ∧
        Untouched (steps ++ [step]) k m (steps.length + 1)) ↔
      step = .write k v ∨ ¬step.touches k ∧
        ∃ m, steps[m]? = some (.write k v) ∧ Untouched steps k m steps.length := by
  constructor
  · rintro ⟨m, hm, hlast⟩
    have hlt : m < steps.length + 1 := by
      simpa using (List.getElem?_eq_some_iff.mp hm).1
    rcases Nat.lt_succ_iff_lt_or_eq.mp hlt with hlt' | rfl
    · obtain ⟨hbefore, hstep⟩ := (untouched_concat hlt').mp hlast
      rw [List.getElem?_append_left hlt'] at hm
      exact Or.inr ⟨hstep, m, hm, hbefore⟩
    · left
      simpa using hm
  · rintro (rfl | ⟨hstep, m, hm, hlast⟩)
    · exact ⟨steps.length, by simp, fun l hl hlt => by omega⟩
    · have hlt : m < steps.length := (List.getElem?_eq_some_iff.mp hm).1
      refine ⟨m, ?_, (untouched_concat hlt).mpr ⟨hlast, hstep⟩⟩
      rw [List.getElem?_append_left hlt, hm]

/-- The next position that touches a key is unique. -/
theorem next_unique {steps : List (RegisterStep κ β)} {k : κ} {m n n' : ℕ} (hn : m < n)
    (hn' : m < n') (h : TouchedAt steps k n) (h' : TouchedAt steps k n')
    (hbetween : Untouched steps k m n) (hbetween' : Untouched steps k m n') : n = n' := by
  rcases lt_trichotomy n n' with hlt | heq | hlt
  · exact absurd h (hbetween' n hn hlt)
  · exact heq
  · exact absurd h' (hbetween n' hn' hlt)

/-- So is the last one before a position. -/
theorem last_unique {steps : List (RegisterStep κ β)} {k : κ} {m m' n : ℕ} (hm : m < n)
    (hm' : m' < n) (h : TouchedAt steps k m) (h' : TouchedAt steps k m')
    (hbetween : Untouched steps k m n) (hbetween' : Untouched steps k m' n) : m = m' := by
  rcases lt_trichotomy m m' with hlt | heq | hlt
  · exact absurd h' (hbetween m' hlt hm')
  · exact heq
  · exact absurd h (hbetween' m hlt hm)

end RegisterStep

open RegisterStep

/-! ## The machine -/

variable [DecidableEq κ]

/-- The registers, one for each key. -/
def registers : Machine (κ → Option β) (RegisterStep κ β) β where
  step r
    | .skip => (r, [])
    | .write k v => (Function.update r k (some v), [])
    | .take k => (Function.update r k none, (r k).toList)

/-- A step that does not touch a key leaves its register alone. -/
theorem next_of_not_touches {r : κ → Option β} {step : RegisterStep κ β} {k : κ}
    (h : ¬ step.touches k) : registers.next r step k = r k := by
  cases step with
  | skip => rfl
  | write k' v => exact Function.update_of_ne (Ne.symm h) _ _
  | take k' => exact Function.update_of_ne (Ne.symm h) _ _

/-- A step that touches a key leaves a value there exactly when it writes that value. -/
theorem next_of_touches {r : κ → Option β} {step : RegisterStep κ β} {k : κ}
    (h : step.touches k) (v : β) :
    registers.next r step k = some v ↔ step = .write k v := by
  cases step with
  | skip => exact h.elim
  | write k' w =>
    have hk : k' = k := h
    subst hk
    change Function.update r k' (some w) k' = some v ↔ _
    simp
  | take k' =>
    have hk : k' = k := h
    subst hk
    change Function.update r k' none k' = some v ↔ _
    simp

/-- **A register holds the last write.** Starting empty, a register holds a value exactly
when the last position that touches it writes that value. -/
theorem registers_eq_some_iff {steps : List (RegisterStep κ β)} {k : κ} {v : β} :
    registers.state (fun _ => none) steps k = some v ↔
      ∃ m, steps[m]? = some (.write k v) ∧ Untouched steps k m steps.length := by
  induction steps using List.reverseRecOn with
  | nil => simp
  | append_singleton steps step ih =>
    rw [Machine.state_append, Machine.state_cons, Machine.state_nil, List.length_append,
      List.length_singleton, exists_lastWrite_concat]
    by_cases htouch : step.touches k
    · simp [next_of_touches htouch, htouch]
    · have hstep : step ≠ .write k v := fun heq => htouch (heq ▸ rfl)
      simp [next_of_not_touches htouch, ih, htouch, hstep]

/-- **The fate of a write**: the register still holds it, a take has emitted it, or a later
write has replaced it. -/
theorem write_fate {steps : List (RegisterStep κ β)} {k : κ} {v : β} {m : ℕ}
    (hm : steps[m]? = some (.write k v)) :
    (registers.state (fun _ => none) steps k = some v ∧ Untouched steps k m steps.length) ∨
    (∃ n, m < n ∧ Untouched steps k m n ∧ steps[n]? = some (.take k) ∧
      registers.state (fun _ => none) (steps.take n) k = some v) ∨
    ∃ n, m < n ∧ Untouched steps k m n ∧ ∃ w, steps[n]? = some (.write k w) := by
  classical
  by_cases hex : ∃ n, m < n ∧ TouchedAt steps k n
  · right
    obtain ⟨hn, step, hstep, htouch⟩ := Nat.find_spec hex
    have hbetween : Untouched steps k m (Nat.find hex) := fun l hl hlt htouched =>
      Nat.find_min hex hlt ⟨hl, htouched⟩
    cases step with
    | skip => exact htouch.elim
    | write k' w =>
      have hk : k' = k := htouch
      exact Or.inr ⟨_, hn, hbetween, w, hk ▸ hstep⟩
    | take k' =>
      have hk : k' = k := htouch
      have hlength := (List.getElem?_eq_some_iff.mp hstep).1
      refine Or.inl ⟨_, hn, hbetween, hk ▸ hstep, ?_⟩
      refine registers_eq_some_iff.mpr ⟨m, by rw [List.getElem?_take_of_lt hn, hm], ?_⟩
      intro l hl hlt htouched
      have hlt' : l < Nat.find hex := by
        rw [List.length_take] at hlt
        omega
      exact hbetween l hl hlt' ((touchedAt_take hlt').mp htouched)
  · left
    have hlast : Untouched steps k m steps.length := fun l hl _ htouched => hex ⟨l, hl, htouched⟩
    exact ⟨registers_eq_some_iff.mpr ⟨m, hm, hlast⟩, hlast⟩

end Lib
