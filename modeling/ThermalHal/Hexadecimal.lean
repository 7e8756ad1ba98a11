import Mathlib.Data.Nat.Digits.Lemmas
import Mathlib.Data.String.Basic
import ThermalHal.Binary64

/-!
# Hexadecimal texts of doubles

A decimal text that gives a double exactly can have more than a thousand digits. The hexadecimal
one has at most fourteen, so it fits every buffer the component reads into: the significand in
base 16, and the power of two it is scaled by.

## Main definitions

* `significand`, `binaryExponent` — the two numbers that make up a double.
* `hexText`, `strtod_hexText` — the text, and that it is read back.
* `hexText_size` — how long it is at most.
-/

namespace ThermalHal

/-! ## Hexadecimal digits -/

/-- The digits of a number in base 16, none for zero. -/
def hexDigits (n : ℕ) : List Char := (Nat.digits 16 n).reverse.map Nat.digitChar

theorem digitValue?_digitChar {d : ℕ} (h : d < 16) : digitValue? 16 d.digitChar = some d := by
  interval_cases d <;> decide

theorem takeDigits_digitChar {ds : List ℕ} (hds : ∀ d ∈ ds, d < 16) {rest : List Char}
    (hrest : ∀ c ∈ rest.head?, digitValue? 16 c = none) :
    takeDigits 16 (ds.map Nat.digitChar ++ rest) = (ds, rest) := by
  induction ds with
  | nil =>
    cases rest with
    | nil => rfl
    | cons c cs =>
      have hc : digitValue? 16 c = none := hrest c (by simp)
      simp [takeDigits, hc]
  | cons d ds ih =>
    have hd := digitValue?_digitChar (hds d List.mem_cons_self)
    have htail := ih fun x hx => hds x (List.mem_cons_of_mem d hx)
    simp [takeDigits, hd, htail]

theorem digitsValue_digits (n : ℕ) : digitsValue 16 (Nat.digits 16 n).reverse = n := by
  have hfold : digitsValue 16 (Nat.digits 16 n).reverse = Nat.ofDigits 16 (Nat.digits 16 n) := by
    rw [digitsValue, List.foldl_reverse, Nat.ofDigits_eq_foldr]
    congr
    funext d value
    simp
    omega
  rw [hfold, Nat.ofDigits_digits]

/-! ## The two parts of a double -/

/-- The power of two that a double is a multiple of. -/
def binaryExponent (q : ℚ) : ℤ := binary64.quantumExponent |q|

/-- How many times, without the sign. -/
def significand (q : ℚ) : ℕ := (|q| / binary64.quantum |q|).num.natAbs

theorem significand_spec {q : ℚ} (h : IsDouble q) :
    (significand q : ℚ) * 2 ^ binaryExponent q = |q| ∧ significand q < 2 ^ 53 := by
  obtain ⟨k, hk⟩ := Lib.FloatFormat.exists_mul_quantum h.abs.1 (abs_nonneg q)
  have hpos := binary64.quantum_pos |q|
  have hscaled : |q| / binary64.quantum |q| = k := by
    rw [div_eq_iff hpos.ne']
    exact hk
  have hnonneg : 0 ≤ k := by
    have hquotient : (0 : ℚ) ≤ k := by
      rw [← hscaled]
      exact div_nonneg (abs_nonneg q) hpos.le
    exact_mod_cast hquotient
  have hsignificand : (significand q : ℤ) = k := by
    rw [significand, hscaled, Rat.num_intCast]
    omega
  have hcast : (significand q : ℚ) = k := by exact_mod_cast hsignificand
  constructor
  · rw [hcast]
    exact hk.symm
  · have hlt := binary64.div_quantum_lt |q|
    rw [hscaled] at hlt
    have hbound : k < 2 ^ 53 := by exact_mod_cast hlt
    omega

theorem log_lt_of_lt {q : ℚ} (hq : 0 ≤ q) {n : ℕ} (hn : 0 < n) (h : q < 2 ^ n) :
    Int.log 2 q < n := by
  rcases hq.eq_or_lt with rfl | hpos
  · simpa using hn
  · rw [← Int.lt_zpow_iff_log_lt (by norm_num) hpos, zpow_natCast]
    exact_mod_cast h

theorem binaryExponent_mem {q : ℚ} (h : IsDouble q) :
    -1074 ≤ binaryExponent q ∧ binaryExponent q ≤ 971 := by
  have hlog : Int.log 2 |q| < (1024 : ℕ) := log_lt_of_lt (abs_nonneg q) (by omega) h.2
  have hexponent : binaryExponent q = max (Int.log 2 |q| - (53 - 1)) (-1074) := rfl
  omega

/-! ## The text -/

/-- What follows the prefix: the significand and the exponent. -/
def hexBody (q : ℚ) : List Char :=
  '0' :: (hexDigits (significand q) ++ 'p' :: ((Numeral.ofInt (binaryExponent q)).sign.chars ++
    (Numeral.ofInt (binaryExponent q)).digits))

def hexSign (q : ℚ) : NumeralSign := if q < 0 then .minus else .absent

/-- A double as a hexadecimal constant. -/
def hexText (q : ℚ) : String := String.ofList ((hexSign q).chars ++ '0' :: 'x' :: hexBody q)

theorem zero_not_mem_hexDigits (n : ℕ) : '\x00' ∉ hexDigits n := by
  intro h
  obtain ⟨d, hd, hzero⟩ := List.mem_map.mp h
  have hvalue := digitValue?_digitChar (Nat.digits_lt_base (by omega) (List.mem_reverse.mp hd))
  have hnone : digitValue? 16 '\x00' = none := by decide
  rw [hzero, hnone] at hvalue
  contradiction

theorem zeroFree_hexText (q : ℚ) : ZeroFree (hexText q) := by
  let n : Numeral := .ofInt (binaryExponent q)
  have hdigits : '\x00' ∉ n.digits := fun h => ne_zero_of_isDigit (n.digits_isDigit _ h) rfl
  rw [ZeroFree, hexText, String.toList_ofList, hexBody]
  simp only [List.mem_append, List.mem_cons, not_or]
  exact ⟨zero_not_mem_chars _, by decide, by decide, by decide, zero_not_mem_hexDigits _,
    by decide, zero_not_mem_chars _, hdigits⟩

theorem head_hexText (q : ℚ) : ∀ c ∈ (hexText q).toList.head?, isspace c = false := by
  intro c hc
  have hfirst : c = '0' ∨ c = '+' ∨ c = '-' := by
    rw [hexText, String.toList_ofList] at hc
    cases hsign : hexSign q <;> simp_all [NumeralSign.chars, eq_comm]
  rcases hfirst with rfl | rfl | rfl <;> decide

theorem takeSign_hexText (q : ℚ) :
    takeSign ((hexText q).toList.dropWhile isspace) =
      (decide (q < 0), '0' :: 'x' :: hexBody q) := by
  have hsign : decide (hexSign q = .minus) = decide (q < 0) := by
    by_cases hneg : q < 0 <;> simp [hexSign, hneg]
  have hzero : ∀ c ∈ ['0'], c.isDigit = true := List.forall_mem_singleton.mpr (by decide)
  have htake := takeSign_chars (hexSign q) (by simp) hzero ('x' :: hexBody q)
  rw [hsign] at htake
  rw [dropWhile_of_head (head_hexText q), hexText, String.toList_ofList]
  exact htake

/-- Digits with a binary exponent, read whole. -/
theorem floatBody_hexadecimal {ds : List ℕ} (hds : ∀ d ∈ ds, d < 16) (n : Numeral) :
    floatBody 16 2 4 'p' ('0' :: (ds.map Nat.digitChar ++ 'p' :: (n.sign.chars ++ n.digits))) =
      some ((digitsValue 16 ds : ℚ) * 2 ^ n.value, []) := by
  have hdigits : ∀ d ∈ 0 :: ds, d < 16 := by simpa using hds
  have hwhole : takeDigits 16 ('0' :: (ds.map Nat.digitChar ++ 'p' :: (n.sign.chars ++ n.digits))) =
      (0 :: ds, 'p' :: (n.sign.chars ++ n.digits)) :=
    takeDigits_digitChar hdigits (by simp; decide)
  have hzero : digitsValue 16 (0 :: ds) = digitsValue 16 ds := rfl
  have hsign := takeSign_chars n.sign n.digits_ne_nil n.digits_isDigit []
  have hlast := takeDigits_append n.digits_isDigit [] (by simp)
  rw [List.append_nil] at hsign hlast
  have hmarker : 'p'.toLower = 'p' := by decide
  simp [floatBody, hwhole, hzero, hmarker, hsign, hlast, n.digits_ne_nil, digitsValue_map,
    Numeral.value, Numeral.magnitude]

/-- **A double is read back** from its hexadecimal text, with no range error. -/
theorem strtod_hexText {q : ℚ} (h : IsDouble q) :
    strtod (hexText q) = some ⟨.finite q, [], false⟩ := by
  have hconstant : floatConstant ('0' :: 'x' :: hexBody q) = some (|q|, []) := by
    have hx : 'x'.toLower = 'x' := by decide
    have hds : ∀ d ∈ (Nat.digits 16 (significand q)).reverse, d < 16 :=
      fun d hd => Nat.digits_lt_base (by omega) (List.mem_reverse.mp hd)
    have hbody := floatBody_hexadecimal hds (.ofInt (binaryExponent q))
    rw [digitsValue_digits, Numeral.value_ofInt, (significand_spec h).1] at hbody
    rw [floatConstant, if_pos hx, hexBody, hexDigits, hbody]
    rfl
  have hinf : stripWord "inf".toList ('0' :: 'x' :: hexBody q) = none := rfl
  have hnan : stripWord "nan".toList ('0' :: 'x' :: hexBody q) = none := rfl
  have hread := toDouble_of_isDouble (abs_nonneg q) h.abs (decide (q < 0))
  rw [sign_abs] at hread
  simp only [strtod, takeSign_hexText, hinf, hnan, hconstant, Option.map_some, hread]

/-! ## Its length -/

/-- No character takes more than four bytes. -/
theorem utf8ByteSize_ofList_le (cs : List Char) :
    (String.ofList cs).utf8ByteSize ≤ 4 * cs.length := by
  rw [String.utf8ByteSize_ofList]
  induction cs with
  | nil => simp
  | cons c cs ih =>
    have hc := c.utf8Size_le_four
    rw [String.utf8Len_cons, List.length_cons]
    omega

theorem length_chars (sign : NumeralSign) : sign.chars.length ≤ 1 := by cases sign <;> decide

theorem length_hexDigits {n k : ℕ} (h : n < 16 ^ k) : (hexDigits n).length ≤ k := by
  rw [hexDigits, List.length_map, List.length_reverse]
  exact (Nat.digits_length_le_iff (by omega) n).mpr h

/-- The text fits a buffer of 256 bytes. -/
theorem hexText_size {q : ℚ} (h : IsDouble q) : (hexText q).utf8ByteSize < 256 := by
  have hexponent := binaryExponent_mem h
  have hsize := utf8ByteSize_ofList_le ((hexSign q).chars ++ '0' :: 'x' :: hexBody q)
  have hsign := length_chars (hexSign q)
  have hsign' := length_chars (Numeral.ofInt (binaryExponent q)).sign
  have hdigits : (hexDigits (significand q)).length ≤ 14 := by
    have := (significand_spec h).2
    exact length_hexDigits (by omega)
  have hdigits' : (Numeral.ofInt (binaryExponent q)).digits.length ≤ 4 :=
    (Nat.length_toDigits_le_iff (by omega) (by omega)).mpr (by omega)
  have hlength : ((hexSign q).chars ++ '0' :: 'x' :: hexBody q).length ≤ 24 := by
    simp only [hexBody, List.length_append, List.length_cons]
    omega
  rw [hexText]
  omega

end ThermalHal
