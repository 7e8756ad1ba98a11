import Mathlib.Data.Int.Log
import Mathlib.Data.Rat.Floor
import Mathlib.Tactic.Linarith
import Mathlib.Tactic.Ring

/-!
# Binary floating-point formats

The numbers of a binary format with a given precision and a least exponent, and the rounding of
a non-negative number to them by any monotone rounding to integers: scale the number so that the
spacing of the format becomes one, round, and scale back. There is no greatest exponent; a
caller that has one compares the result with its bound.

## Main definitions

* `FloatFormat.Representable` — the numbers of the format.
* `IntegerRounding` — a monotone rounding to integers.
* `FloatFormat.representable_roundTo` — rounding gives a number of the format.
* `FloatFormat.roundTo_of_representable` — and leaves such a number as it is.
* `FloatFormat.roundTo_le`, `FloatFormat.le_roundTo` — and does not pass one.
-/

namespace Lib

/-- A binary format: the digits of a significand and the least exponent. -/
structure FloatFormat where
  precision : ℕ
  minExponent : ℤ
  precision_pos : 0 < precision

/-- A monotone function that rounds to an integer. -/
structure IntegerRounding where
  round : ℚ → ℤ
  mono : ∀ {a b : ℚ}, a ≤ b → round a ≤ round b
  round_intCast : ∀ n : ℤ, round n = n

namespace FloatFormat

variable (F : FloatFormat)

/-- The numbers of the format: a significand of at most the precision, scaled. -/
def Representable (q : ℚ) : Prop :=
  ∃ m e : ℤ, |m| < 2 ^ F.precision ∧ F.minExponent ≤ e ∧ q = m * 2 ^ e

theorem representable_zero : F.Representable 0 :=
  ⟨0, F.minExponent, by simp, le_rfl, by simp⟩

variable {F}

theorem Representable.neg {q : ℚ} (h : F.Representable q) : F.Representable (-q) := by
  obtain ⟨m, e, hm, he, rfl⟩ := h
  exact ⟨-m, e, by rwa [abs_neg], he, by push_cast; ring⟩

/-- A significand that reaches the next power of two belongs to the next exponent. -/
theorem representable_of_le {m e : ℤ} (hm : |m| ≤ 2 ^ F.precision) (he : F.minExponent ≤ e) :
    F.Representable (m * 2 ^ e) := by
  rcases lt_or_eq_of_le hm with hlt | heq
  · exact ⟨m, e, hlt, he, rfl⟩
  · have hpos : F.precision = F.precision - 1 + 1 := by
      have := F.precision_pos
      omega
    have hhalf : |m| = 2 * 2 ^ (F.precision - 1) := by
      rw [heq, hpos, pow_succ]
      simp [mul_comm]
    have hdouble : ∃ k : ℤ, m = 2 * k ∧ |k| = 2 ^ (F.precision - 1) := by
      rcases abs_choice m with hpos | hneg
      · exact ⟨2 ^ (F.precision - 1), by omega, by simp⟩
      · exact ⟨-2 ^ (F.precision - 1), by rw [mul_neg]; omega, by simp⟩
    obtain ⟨k, rfl, hk⟩ := hdouble
    have hlt : |k| < 2 ^ F.precision := by
      rw [hk]
      exact pow_lt_pow_right₀ (by omega) (by have := F.precision_pos; omega)
    refine ⟨k, e + 1, hlt, by omega, ?_⟩
    rw [zpow_add₀ (by norm_num : (2 : ℚ) ≠ 0)]
    push_cast
    ring

variable (F)

/-- The exponent of the spacing of the format around a positive number. -/
def quantumExponent (q : ℚ) : ℤ := max (Int.log 2 q - (F.precision - 1)) F.minExponent

/-- The spacing of the format around a positive number. -/
def quantum (q : ℚ) : ℚ := 2 ^ F.quantumExponent q

/-- Round a non-negative number to the format. -/
def roundTo (r : IntegerRounding) (q : ℚ) : ℚ := r.round (q / F.quantum q) * F.quantum q

theorem two_zpow_pos (e : ℤ) : (0 : ℚ) < 2 ^ e := zpow_pos (by norm_num) e

theorem quantum_pos (q : ℚ) : 0 < F.quantum q := two_zpow_pos _

/-- Scaled by the spacing, a number has at most the precision in front of the point. -/
theorem div_quantum_lt (q : ℚ) : q / F.quantum q < 2 ^ F.precision := by
  have hscale : (2 : ℚ) ^ F.precision * F.quantum q = 2 ^ (F.precision + F.quantumExponent q) := by
    rw [quantum, zpow_add₀ (by norm_num), zpow_natCast]
  have hexp : Int.log 2 q + 1 ≤ F.precision + F.quantumExponent q := by
    have := le_max_left (Int.log 2 q - (F.precision - 1)) F.minExponent
    unfold quantumExponent
    omega
  rw [div_lt_iff₀ (F.quantum_pos q), hscale]
  calc q < (2 : ℕ) ^ (Int.log 2 q + 1) := Int.lt_zpow_succ_log_self (by norm_num) q
    _ = (2 : ℚ) ^ (Int.log 2 q + 1) := by norm_num
    _ ≤ 2 ^ (F.precision + F.quantumExponent q) := zpow_le_zpow_right₀ (by norm_num) hexp

variable {F} {r : IntegerRounding} {q : ℚ}

theorem round_nonneg (hq : 0 ≤ q) : 0 ≤ r.round q := by
  have hle := r.mono hq
  have hzero := r.round_intCast 0
  simp only [Int.cast_zero] at hzero
  rwa [hzero] at hle

theorem roundTo_nonneg (hq : 0 ≤ q) : 0 ≤ F.roundTo r q := by
  have hscaled : 0 ≤ q / F.quantum q := div_nonneg hq (F.quantum_pos q).le
  have hround : (0 : ℚ) ≤ r.round (q / F.quantum q) := by exact_mod_cast round_nonneg hscaled
  exact mul_nonneg hround (F.quantum_pos q).le

/-- **Rounding gives a number of the format.** -/
theorem representable_roundTo (hq : 0 ≤ q) : F.Representable (F.roundTo r q) := by
  have hnonneg : 0 ≤ r.round (q / F.quantum q) :=
    round_nonneg (div_nonneg hq (F.quantum_pos q).le)
  have hle : r.round (q / F.quantum q) ≤ 2 ^ F.precision := by
    have hmono := r.mono (F.div_quantum_lt q).le
    have hint := r.round_intCast (2 ^ F.precision)
    push_cast at hint
    rwa [hint] at hmono
  refine representable_of_le ?_ (le_max_right _ _)
  rwa [abs_of_nonneg hnonneg]

/-- A number of the format is a multiple of the spacing around it. -/
theorem exists_mul_quantum (h : F.Representable q) (hq : 0 ≤ q) :
    ∃ k : ℤ, q = k * F.quantum q := by
  obtain ⟨m, e, hm, he, heq⟩ := h
  rcases hq.eq_or_lt with hzero | hpos
  · exact ⟨0, by simp [← hzero]⟩
  -- the spacing divides the scale of the significand
  have hmpos : 0 < m := by
    rw [heq] at hpos
    exact_mod_cast pos_of_mul_pos_left hpos (two_zpow_pos e).le
  have hlog : Int.log 2 q < F.precision + e := by
    rw [← Int.lt_zpow_iff_log_lt (by norm_num) hpos, heq]
    push_cast
    rw [zpow_add₀ (by norm_num), zpow_natCast]
    have hlt : (m : ℚ) < 2 ^ F.precision := by
      rw [abs_of_pos hmpos] at hm
      exact_mod_cast hm
    exact mul_lt_mul_of_pos_right hlt (two_zpow_pos e)
  have hexp : F.quantumExponent q ≤ e := by
    refine max_le ?_ he
    omega
  refine ⟨m * 2 ^ (e - F.quantumExponent q).toNat, ?_⟩
  have hsplit : (2 : ℚ) ^ e =
      2 ^ (e - F.quantumExponent q).toNat * 2 ^ F.quantumExponent q := by
    rw [← zpow_natCast, ← zpow_add₀ (by norm_num)]
    congr 1
    omega
  calc q = m * 2 ^ e := heq
    _ = ((m * 2 ^ (e - F.quantumExponent q).toNat : ℤ) : ℚ) * F.quantum q := by
      rw [hsplit, quantum]
      push_cast
      ring

/-- **A number of the format is its own rounding.** -/
theorem roundTo_of_representable (h : F.Representable q) (hq : 0 ≤ q) : F.roundTo r q = q := by
  obtain ⟨k, hk⟩ := exists_mul_quantum h hq
  have hscaled : q / F.quantum q = k := by
    rw [div_eq_iff (F.quantum_pos q).ne']
    exact hk
  rw [roundTo, hscaled, r.round_intCast, ← hk]

/-! ## Rounding against numbers of the format -/

theorem quantumExponent_mono {x y : ℚ} (hx : 0 < x) (hxy : x ≤ y) :
    F.quantumExponent x ≤ F.quantumExponent y := by
  have hlog := Int.log_mono_right (b := 2) hx hxy
  unfold quantumExponent
  omega

/-- A number of the format is a multiple of every spacing that is not above its own. -/
theorem exists_mul_zpow {z : ℚ} (hz : F.Representable z) (hz0 : 0 ≤ z) {e : ℤ}
    (he : e ≤ F.quantumExponent z) : ∃ k : ℤ, z = k * 2 ^ e := by
  obtain ⟨k, hk⟩ := exists_mul_quantum hz hz0
  have hsplit : F.quantum z = 2 ^ (F.quantumExponent z - e).toNat * 2 ^ e := by
    rw [quantum, ← zpow_natCast, ← zpow_add₀ (by norm_num)]
    congr 1
    omega
  refine ⟨k * 2 ^ (F.quantumExponent z - e).toNat, ?_⟩
  calc z = k * F.quantum z := hk
    _ = _ := by
      rw [hsplit]
      push_cast
      ring

/-- **Rounding does not pass a number of the format** on the way up. -/
theorem roundTo_le {z : ℚ} (hq : 0 ≤ q) (hqz : q ≤ z) (hz : F.Representable z) :
    F.roundTo r q ≤ z := by
  rcases hq.eq_or_lt with rfl | hpos
  · rw [roundTo_of_representable F.representable_zero le_rfl]
    exact hqz
  obtain ⟨k, hk⟩ := exists_mul_zpow hz (hq.trans hqz) (quantumExponent_mono hpos hqz)
  have hscaled : q / F.quantum q ≤ k := by
    rw [div_le_iff₀ (F.quantum_pos q), quantum, ← hk]
    exact hqz
  have hround : r.round (q / F.quantum q) ≤ k := by
    have hmono := r.mono hscaled
    rwa [r.round_intCast] at hmono
  calc F.roundTo r q ≤ k * F.quantum q :=
        mul_le_mul_of_nonneg_right (by exact_mod_cast hround) (F.quantum_pos q).le
    _ = z := hk.symm

/-- **Nor on the way down.** -/
theorem le_roundTo {z : ℚ} (hz0 : 0 ≤ z) (hzq : z ≤ q) (hz : F.Representable z) :
    z ≤ F.roundTo r q := by
  have hq : 0 ≤ q := hz0.trans hzq
  rcases hz0.eq_or_lt with rfl | hzpos
  · exact roundTo_nonneg hq
  -- a multiple of the spacing around `q` between `z` and `q`
  suffices hmul : ∃ k : ℤ, z ≤ k * F.quantum q ∧ k * F.quantum q ≤ q by
    obtain ⟨k, hzk, hkq⟩ := hmul
    have hscaled : (k : ℚ) ≤ q / F.quantum q := by
      rw [le_div_iff₀ (F.quantum_pos q)]
      exact hkq
    have hround : k ≤ r.round (q / F.quantum q) := by
      have hmono := r.mono hscaled
      rwa [r.round_intCast] at hmono
    exact hzk.trans (mul_le_mul_of_nonneg_right (by exact_mod_cast hround) (F.quantum_pos q).le)
  rcases (quantumExponent_mono (F := F) hzpos hzq).eq_or_lt with heq | hlt
  · obtain ⟨k, hk⟩ := exists_mul_zpow hz hz0 heq.ge
    exact ⟨k, hk.le, hk ▸ hzq⟩
  · -- the power of two below `q` is above `z`, which has a smaller exponent
    have hqpos : 0 < q := hzpos.trans_le hzq
    have hlow : F.minExponent ≤ F.quantumExponent z := le_max_right _ _
    have hexp : F.quantumExponent q = Int.log 2 q - (F.precision - 1) := by
      unfold quantumExponent at hlt hlow ⊢
      omega
    have hlog : Int.log 2 z + 1 ≤ Int.log 2 q := by
      have := le_max_left (Int.log 2 z - (F.precision - 1)) F.minExponent
      unfold quantumExponent at hlt hexp
      omega
    have hpow : ((2 ^ (F.precision - 1) : ℤ) : ℚ) * F.quantum q = 2 ^ Int.log 2 q := by
      have hprec := F.precision_pos
      push_cast
      rw [quantum, ← zpow_natCast, ← zpow_add₀ (by norm_num), hexp]
      congr 1
      omega
    have hself := Int.zpow_log_le_self (b := 2) (by norm_num) hqpos
    have hsucc := Int.lt_zpow_succ_log_self (b := 2) (by norm_num) z
    push_cast at hself hsucc
    refine ⟨2 ^ (F.precision - 1), ?_, by rw [hpow]; exact hself⟩
    rw [hpow]
    exact hsucc.le.trans (zpow_le_zpow_right₀ (by norm_num) hlog)

end FloatFormat

end Lib
