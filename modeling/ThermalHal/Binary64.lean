import Mathlib.Data.Nat.Prime.Basic
import Mathlib.Data.Rat.Lemmas
import ThermalHal.Lib.FloatFormat
import ThermalHal.Numeral

/-!
# The numbers a double holds

`strtod` rounds what a text spells to the nearest `double`. Every finite value it returns is one
of the format, and every number of the format has a text from which it is read back exactly.

## Main definitions

* `binary64`, `IsDouble` — the format, and its finite numbers.
* `isDouble_of_strtod` — only such numbers are read.
* `decimalText`, `strtod_decimalText` — and each of them is, from its decimal spelling.
-/

namespace ThermalHal

/-! ## The format -/

/-- Binary64 without its greatest exponent. -/
def binary64 : Lib.FloatFormat where
  precision := 53
  minExponent := -1074
  precision_pos := by omega

/-- A number that a finite `double` stores. -/
def IsDouble (q : ℚ) : Prop := binary64.Representable q ∧ |q| < 2 ^ 1024

theorem isDouble_zero : IsDouble 0 :=
  ⟨binary64.representable_zero, by rw [abs_zero]; exact pow_pos two_pos 1024⟩

theorem IsDouble.neg {q : ℚ} (h : IsDouble q) : IsDouble (-q) :=
  ⟨h.1.neg, by rw [abs_neg]; exact h.2⟩

theorem IsDouble.abs {q : ℚ} (h : IsDouble q) : IsDouble |q| := by
  rcases abs_choice q with hpos | hneg
  · rwa [hpos]
  · rw [hneg]
    exact h.neg

theorem roundEven_intCast (n : ℤ) : roundEven n = n := by simp [roundEven]

/-- A rounded number lies between the two integers around it. -/
theorem roundEven_mem (q : ℚ) : roundEven q = ⌊q⌋ ∨ roundEven q = ⌊q⌋ + 1 := by
  have hparity := Int.emod_two_eq_zero_or_one ⌊q⌋
  simp only [roundEven]
  split_ifs
  · exact Or.inl rfl
  · exact Or.inr rfl
  · omega

theorem roundEven_mono {a b : ℚ} (hab : a ≤ b) : roundEven a ≤ roundEven b := by
  have hfloor := Int.floor_mono hab
  rcases hfloor.eq_or_lt with heq | hlt
  · -- the same two integers are around both, so the fractions decide
    unfold roundEven
    simp only [heq]
    have hcast : (⌊a⌋ : ℚ) = ⌊b⌋ := by rw [heq]
    split_ifs <;> first | omega | linarith
  · have ha := roundEven_mem a
    have hb := roundEven_mem b
    omega

/-- Rounding to nearest, ties to even. -/
def nearestEven : Lib.IntegerRounding := ⟨roundEven, roundEven_mono, roundEven_intCast⟩

theorem roundToDouble_eq (q : ℚ) : roundToDouble q = binary64.roundTo nearestEven q := by
  have hulp : ulp q = binary64.quantum q := by
    simp [ulp, Lib.FloatFormat.quantum, Lib.FloatFormat.quantumExponent, binary64]
  rw [roundToDouble, hulp]
  rfl

/-- Every finite value that is made is a number of the format. -/
theorem isDouble_of_toDouble {negative erange : Bool} {q v : ℚ} (hq : 0 ≤ q)
    (h : toDouble negative q = (.finite v, erange)) : IsDouble v := by
  have hround : binary64.Representable (roundToDouble q) := by
    rw [roundToDouble_eq]
    exact Lib.FloatFormat.representable_roundTo hq
  have hnonneg : 0 ≤ roundToDouble q := by
    rw [roundToDouble_eq]
    exact Lib.FloatFormat.roundTo_nonneg hq
  by_cases hbound : 2 ^ 1024 ≤ roundToDouble q
  · simp [toDouble, if_pos hbound] at h
  have hdouble : IsDouble (roundToDouble q) :=
    ⟨hround, by rw [abs_of_nonneg hnonneg]; exact not_le.mp hbound⟩
  simp only [toDouble, if_neg hbound, Prod.mk.injEq, Double.finite.injEq] at h
  rw [← h.1]
  split_ifs
  · exact hdouble.neg
  · exact hdouble

/-- **A number of the format is made from itself**, with its sign and without a range error. -/
theorem toDouble_of_isDouble {q : ℚ} (hq : 0 ≤ q) (h : IsDouble q) (negative : Bool) :
    toDouble negative q = (.finite (if negative then -q else q), false) := by
  have hround : roundToDouble q = q := by
    rw [roundToDouble_eq]
    exact Lib.FloatFormat.roundTo_of_representable h.1 hq
  have hbound : ¬ (2 : ℚ) ^ 1024 ≤ q := by
    have := h.2
    rw [abs_of_nonneg hq] at this
    exact not_le.mpr this
  simp [toDouble, hround, hbound]

/-- A number is its magnitude with its sign. -/
theorem sign_abs (q : ℚ) : (if decide (q < 0) = true then -|q| else |q|) = q := by
  by_cases hneg : q < 0
  · simp [hneg, abs_of_neg hneg]
  · simp [hneg, abs_of_nonneg (not_lt.mp hneg)]

/-! ## What is read -/

theorem floatBody_nonneg {base perDigit : ℕ} {radix q : ℚ} {marker : Char} {cs rest : List Char}
    (hradix : 0 ≤ radix) (h : floatBody base radix perDigit marker cs = some (q, rest)) :
    0 ≤ q := by
  have hscaled : ∀ (n : ℕ) (e : ℤ), 0 ≤ (n : ℚ) * radix ^ e :=
    fun n e => mul_nonneg (Nat.cast_nonneg n) (zpow_nonneg hradix e)
  simp only [floatBody] at h
  split_ifs at h
  split at h
  · split_ifs at h
    all_goals
      simp only [Option.some.injEq, Prod.mk.injEq] at h
      rw [← h.1]
      exact hscaled _ _
  · simp only [Option.some.injEq, Prod.mk.injEq] at h
    rw [← h.1]
    exact hscaled _ _

theorem floatConstant_nonneg {q : ℚ} {cs rest : List Char}
    (h : floatConstant cs = some (q, rest)) : 0 ≤ q := by
  unfold floatConstant at h
  split at h
  · split_ifs at h
    · rcases Option.or_eq_some_iff.mp h with hhex | ⟨-, hdec⟩
      · exact floatBody_nonneg (by norm_num) hhex
      · exact floatBody_nonneg (by norm_num) hdec
    · exact floatBody_nonneg (by norm_num) h
  · exact floatBody_nonneg (by norm_num) h

/-- **Only numbers of the format are read.** -/
theorem isDouble_of_strtod {str : String} {read : Conversion Double} {v : ℚ}
    (h : strtod str = some read) (hv : read.value = .finite v) : IsDouble v := by
  simp only [strtod] at h
  split at h
  · rw [← Option.some.inj h] at hv
    contradiction
  · split at h
    · rw [← Option.some.inj h] at hv
      contradiction
    · obtain ⟨⟨q, rest⟩, hconstant, hread⟩ := Option.map_eq_some_iff.mp h
      rw [← hread] at hv
      exact isDouble_of_toDouble (floatConstant_nonneg hconstant) (Prod.ext hv rfl)

/-! ## What is written -/

/-- How many decimal places a number with a power of two as its denominator has. -/
def decimalPlaces (q : ℚ) : ℕ := Nat.log 2 q.den

/-- The digits of a number without its point. -/
def decimalDigits (q : ℚ) : Numeral := .ofInt (q.num * 5 ^ decimalPlaces q)

/-- A number with a power of two as its denominator, with all its decimal digits. -/
def decimalText (q : ℚ) : String :=
  (decimalDigits q).text ++ "e-" ++ toString (decimalPlaces q)

/-- A digit begins neither word that `strtod` knows, nor a hexadecimal prefix. -/
theorem toLower_of_isDigit {c : Char} (h : c.isDigit = true) : c.toLower = c := by
  have hrange := isDigit_iff.mp h
  have hhigh : c.toNat ≤ '9'.toNat := Char.le_def.mp hrange.2
  have hupper : ¬ (c.val ≥ 'A'.val ∧ c.val ≤ 'Z'.val) := by
    intro hupper
    have hlow : 'A'.toNat ≤ c.toNat := UInt32.le_iff_toNat_le.mp hupper.1
    have : '9'.toNat < 'A'.toNat := by decide
    omega
  exact dif_neg hupper

theorem floatConstant_decimal {cs : List Char} (h : ∀ x ∈ cs.tail.head?, x.toLower ≠ 'x') :
    floatConstant cs = floatBody 10 10 1 'e' cs := by
  unfold floatConstant
  split
  · rename_i x rest
    rw [if_neg (h x (by simp))]
  · rfl

/-- Digits with a negative exponent, read whole. -/
theorem floatBody_decimal {digits exponent : List Char} (hdigits : ∀ c ∈ digits, c.isDigit = true)
    (hne : digits ≠ []) (hexponent : ∀ c ∈ exponent, c.isDigit = true) (hexp : exponent ≠ []) :
    floatBody 10 10 1 'e' (digits ++ 'e' :: '-' :: exponent) =
      some ((Nat.ofDigitChars 10 digits 0 : ℚ) * 10 ^ (-(Nat.ofDigitChars 10 exponent 0 : ℤ)),
        []) := by
  have hwhole := takeDigits_append hdigits ('e' :: '-' :: exponent) (by simp)
  have hlast := takeDigits_append hexponent [] (by simp)
  rw [List.append_nil] at hlast
  simp [floatBody, hwhole, takeSign, hlast, hne, hexp, digitsValue_map]

/-- The denominator of a number of the format is a power of two. -/
theorem den_of_isDouble {q : ℚ} (h : IsDouble q) : q.den = 2 ^ decimalPlaces q := by
  obtain ⟨m, e, -, -, rfl⟩ := h.1
  have hdvd : ∃ j : ℕ, ((m * 2 ^ e : ℚ)).den ∣ 2 ^ j := by
    rcases le_or_gt 0 e with hpos | hneg
    · obtain ⟨j, rfl⟩ := Int.eq_ofNat_of_zero_le hpos
      refine ⟨0, ?_⟩
      have hint : (m * 2 ^ (j : ℤ) : ℚ) = ((m * 2 ^ j : ℤ) : ℚ) := by push_cast; rfl
      rw [hint, Rat.den_intCast, pow_zero]
    · obtain ⟨j, hj⟩ := Int.eq_ofNat_of_zero_le (show 0 ≤ -e by omega)
      refine ⟨j, ?_⟩
      have hdiv : (m * 2 ^ e : ℚ) = (m : ℚ) / ((2 ^ j : ℤ) : ℚ) := by
        rw [show e = -(j : ℤ) by omega, zpow_neg, zpow_natCast]
        push_cast
        rfl
      rw [hdiv, ← Rat.divInt_eq_div]
      exact_mod_cast Rat.den_dvd m (2 ^ j)
  obtain ⟨j, hj⟩ := hdvd
  obtain ⟨i, -, hi⟩ := (Nat.dvd_prime_pow Nat.prime_two).mp hj
  rw [decimalPlaces, hi, Nat.log_pow (by omega)]

theorem zeroFree_decimalText (q : ℚ) : ZeroFree (decimalText q) := by
  have hplaces : ZeroFree (toString (decimalPlaces q)) := zeroFree_toString (decimalPlaces q)
  rw [decimalText, zeroFree_append, zeroFree_append]
  exact ⟨⟨(decimalDigits q).zeroFree_text, by decide⟩, hplaces⟩

/-- The digits and the exponent spell the number without its sign. -/
theorem decimalText_value {q : ℚ} (h : IsDouble q) :
    ((decimalDigits q).magnitude : ℚ) * 10 ^ (-(decimalPlaces q : ℤ)) = |q| := by
  have hden := den_of_isDouble h
  rw [decimalDigits, Numeral.magnitude_ofInt]
  generalize decimalPlaces q = k at hden
  have hten : (10 : ℚ) ^ k = 2 ^ k * 5 ^ k := by rw [← mul_pow]; norm_num
  have hfive : (5 : ℚ) ^ k ≠ 0 := pow_ne_zero k (by norm_num)
  calc ((q.num * 5 ^ k).natAbs : ℚ) * 10 ^ (-(k : ℤ))
      = (q.num.natAbs : ℚ) * (2 ^ k)⁻¹ * (5 ^ k * (5 ^ k)⁻¹) := by
        rw [Int.natAbs_mul, Int.natAbs_pow, zpow_neg, zpow_natCast, hten, mul_inv]
        push_cast
        ring
    _ = |(q.num : ℚ)| / q.den := by
        rw [mul_inv_cancel₀ hfive, mul_one, hden, Nat.cast_natAbs, Int.cast_abs]
        push_cast
        rfl
    _ = |q| := by
        rw [← abs_of_pos (show (0 : ℚ) < q.den by exact_mod_cast q.den_pos), ← abs_div,
          Rat.num_div_den]

theorem sign_decimalDigits (q : ℚ) :
    decide ((decimalDigits q).sign = .minus) = decide (q < 0) := by
  have hiff : q.num * 5 ^ decimalPlaces q < 0 ↔ q < 0 := by
    have hpow : (0 : ℤ) < 5 ^ decimalPlaces q := pow_pos (by omega) _
    rw [← not_le, ← not_le, mul_nonneg_iff_of_pos_right hpow, Rat.num_nonneg]
  by_cases hneg : q < 0
  · simp [decimalDigits, Numeral.ofInt, hiff, hneg]
  · simp [decimalDigits, Numeral.ofInt, hiff, hneg]

/-- What is left of the text behind its sign. -/
def decimalTail (q : ℚ) : List Char :=
  (decimalDigits q).digits ++ 'e' :: '-' :: Nat.toDigits 10 (decimalPlaces q)

theorem takeSign_decimalText (q : ℚ) :
    takeSign ((decimalText q).toList.dropWhile isspace) = (decide (q < 0), decimalTail q) := by
  have hexp : (toString (decimalPlaces q)).toList = Nat.toDigits 10 (decimalPlaces q) :=
    Nat.toList_repr
  have hblanks : (decimalDigits q).blanks = [] := rfl
  have hchars : (decimalText q).toList = (decimalDigits q).sign.chars ++ decimalTail q := by
    simp only [decimalText, decimalTail, String.toList_append, Numeral.text, String.toList_ofList,
      hexp, hblanks]
    simp
  have hblank := dropWhile_of_head
    ((decimalDigits q).head_not_isspace ('e' :: '-' :: Nat.toDigits 10 (decimalPlaces q)))
  rw [hchars, decimalTail, hblank, takeSign_chars _ (decimalDigits q).digits_ne_nil
    (decimalDigits q).digits_isDigit, sign_decimalDigits]

/-- No character behind the first digit makes the text a hexadecimal constant. -/
theorem toLower_decimalTail (q : ℚ) : ∀ x ∈ (decimalTail q).tail.head?, x.toLower ≠ 'x' := by
  have hdigits := (decimalDigits q).digits_isDigit
  obtain ⟨d, ds, hcons⟩ := List.exists_cons_of_ne_nil (decimalDigits q).digits_ne_nil
  rw [hcons] at hdigits
  rw [decimalTail, hcons]
  cases ds with
  | nil => simp
  | cons c cs =>
    have hc : c.isDigit = true := hdigits c (by simp)
    have hx : c ≠ 'x' := by
      rintro rfl
      exact absurd hc (by decide)
    simpa [toLower_of_isDigit hc] using hx

/-- The text begins with no word. -/
theorem stripWord_decimalTail (q : ℚ) {w : Char} (hw : w.isDigit = false) (ws : List Char) :
    stripWord (w :: ws) (decimalTail q) = none := by
  obtain ⟨d, ds, hcons⟩ := List.exists_cons_of_ne_nil (decimalDigits q).digits_ne_nil
  have hd : d.isDigit = true := (decimalDigits q).digits_isDigit d (by simp [hcons])
  have hne : d ≠ w := by
    rintro rfl
    rw [hd] at hw
    contradiction
  simp [decimalTail, hcons, stripWord, toLower_of_isDigit hd, hne]

/-- **A number of the format is read back** from its decimal text, with no range error. -/
theorem strtod_decimalText {q : ℚ} (h : IsDouble q) :
    strtod (decimalText q) = some ⟨.finite q, [], false⟩ := by
  have hconstant : floatConstant (decimalTail q) = some (|q|, []) := by
    have hexponent : ∀ c ∈ Nat.toDigits 10 (decimalPlaces q), c.isDigit = true :=
      fun c hc => Nat.isDigit_of_mem_toDigits (by omega) (by omega) hc
    have hbody := floatBody_decimal (decimalDigits q).digits_isDigit
      (decimalDigits q).digits_ne_nil hexponent Nat.toDigits_ne_nil
    rw [Nat.ofDigitChars_ten_toDigits] at hbody
    rw [floatConstant_decimal (toLower_decimalTail q), ← decimalText_value h]
    exact hbody
  have hinf : stripWord "inf".toList (decimalTail q) = none :=
    stripWord_decimalTail q (by decide) ['n', 'f']
  have hnan : stripWord "nan".toList (decimalTail q) = none :=
    stripWord_decimalTail q (by decide) ['a', 'n']
  have hread := toDouble_of_isDouble (abs_nonneg q) h.abs (decide (q < 0))
  rw [sign_abs] at hread
  simp only [strtod, takeSign_decimalText, hinf, hnan, hconstant, Option.map_some, hread]

end ThermalHal
