import Mathlib.Data.List.TakeWhile
import Mathlib.Tactic.IntervalCases
import ThermalHal.ParseConfig

/-!
# Decimal numerals

What `strtol` and `strtoll` read in base 10, as a grammar: white space, an optional sign and
digits up to the end of the text. A numeral whose magnitude is out of range is read as the
bound, so a caller that checks a smaller range rejects it without looking at `errno`.

## Main definitions

* `Numeral` — a numeral, with its text and its value.
* `Numeral.ofInt` — the spelling `std::to_string` gives an integer.
* `strtoInteger_text`, `numeral_of_strtoInteger` — the grammar is exactly what is read whole.
-/

namespace ThermalHal

/-! ## Digits -/

theorem isDigit_iff {c : Char} : c.isDigit = true ↔ '0' ≤ c ∧ c ≤ '9' := by
  simp [Char.isDigit, Char.le_def]

/-- In base 10 only the digits have a value. -/
theorem digitValue?_ten (c : Char) :
    digitValue? 10 c = if c.isDigit then some (c.toNat - '0'.toNat) else none := by
  have hchar : ∀ a : Char, (a ≤ c ↔ a.toNat ≤ c.toNat) ∧ (c ≤ a ↔ c.toNat ≤ a.toNat) :=
    fun a => ⟨Iff.rfl, Iff.rfl⟩
  by_cases hdigit : c.isDigit
  · have hrange := isDigit_iff.mp hdigit
    have hlt : c.toNat - '0'.toNat < 10 := by
      have hle := (hchar '9').2.mp hrange.2
      simp only [Char.reduceToNat] at hle ⊢
      omega
    simpa [digitValue?, hrange, hdigit, Option.filter] using hlt
  · have hrange : ¬ ('0' ≤ c ∧ c ≤ '9') := fun h => hdigit (isDigit_iff.mpr h)
    simp only [digitValue?, hrange, hdigit, if_false, Bool.false_eq_true]
    split_ifs <;> simp [Option.filter]

/-- The value of a decimal digit. -/
def digitOf (c : Char) : ℕ := c.toNat - '0'.toNat

/-- Digits are taken up to the first character that is none. -/
theorem takeDigits_append {digits : List Char} (hdigits : ∀ c ∈ digits, c.isDigit = true)
    (rest : List Char) (hrest : ∀ c ∈ rest.head?, c.isDigit = false) :
    takeDigits 10 (digits ++ rest) = (digits.map digitOf, rest) := by
  induction digits with
  | nil =>
    cases rest with
    | nil => rfl
    | cons c cs =>
      have hc : c.isDigit = false := hrest c (by simp)
      simp [takeDigits, digitValue?_ten, hc]
  | cons d digits ih =>
    have hd : d.isDigit = true := hdigits d List.mem_cons_self
    have htail := ih fun c hc => hdigits c (List.mem_cons_of_mem d hc)
    simp [takeDigits, digitValue?_ten, hd, htail, digitOf]

/-- Every text is its leading digits and a rest that does not begin with one. -/
theorem takeDigits_spec (cs : List Char) :
    ∃ digits, cs = digits ++ (takeDigits 10 cs).2 ∧ (∀ c ∈ digits, c.isDigit = true) ∧
      (takeDigits 10 cs).1 = digits.map digitOf := by
  induction cs with
  | nil => exact ⟨[], rfl, by simp, rfl⟩
  | cons c cs ih =>
    by_cases hc : c.isDigit
    · obtain ⟨digits, heq, hdigits, hvalues⟩ := ih
      refine ⟨c :: digits, ?_, ?_, ?_⟩
      · simpa [takeDigits, digitValue?_ten, hc] using heq
      · simpa [hc] using hdigits
      · simp [takeDigits, digitValue?_ten, hc, hvalues, digitOf]
    · exact ⟨[], by simp [takeDigits, digitValue?_ten, hc], by simp,
        by simp [takeDigits, digitValue?_ten, hc]⟩

/-- The digits of a text, read as one number. -/
theorem digitsValue_map (digits : List Char) :
    digitsValue 10 (digits.map digitOf) = Nat.ofDigitChars 10 digits 0 := by
  rw [digitsValue, List.foldl_map, Nat.ofDigitChars_eq_foldl]
  simp only [digitOf, Nat.mul_comm]

/-! ## Numerals -/

/-- The sign of a numeral. -/
inductive NumeralSign
  | absent
  | plus
  | minus
  deriving DecidableEq

def NumeralSign.chars : NumeralSign → List Char
  | .absent => []
  | .plus => ['+']
  | .minus => ['-']

/-- White space, an optional sign and at least one decimal digit. -/
structure Numeral where
  blanks : List Char
  sign : NumeralSign
  digits : List Char
  blanks_isspace : ∀ c ∈ blanks, isspace c = true
  digits_isDigit : ∀ c ∈ digits, c.isDigit = true
  digits_ne_nil : digits ≠ []

namespace Numeral

/-- The numeral as it is written. -/
def text (n : Numeral) : String := String.ofList (n.blanks ++ (n.sign.chars ++ n.digits))

/-- The number without its sign. -/
def magnitude (n : Numeral) : ℕ := Nat.ofDigitChars 10 n.digits 0

/-- The number that is written. -/
def value (n : Numeral) : ℤ := if n.sign = .minus then -n.magnitude else n.magnitude

/-- A base leaves the digits as they are: no `0` in front asks base 0 for another base. -/
def Plain (n : Numeral) (base : ℕ) : Prop :=
  base = 10 ∨ base = 0 ∧ (n.digits.head? = some '0' → n.digits = ['0'])

end Numeral

/-- White space is neither a sign nor a digit. -/
theorem isspace_eq_false {c : Char} (h : c.isDigit = true ∨ c = '+' ∨ c = '-') :
    isspace c = false := by
  have hspace : isspace c = true → c.toNat ≤ ' '.toNat := by
    intro hs
    simp only [isspace, Bool.or_eq_true, decide_eq_true_eq, Bool.and_eq_true] at hs
    rcases hs with rfl | ⟨-, hs⟩
    · exact le_rfl
    · exact le_trans (Char.le_def.mp hs) (by decide)
  have hc : ' '.toNat < c.toNat := by
    rcases h with h | rfl | rfl
    · exact lt_of_lt_of_le (by decide) (Char.le_def.mp (isDigit_iff.mp h).1)
    · decide
    · decide
  by_contra htrue
  have hle := hspace (by simpa using htrue)
  omega

theorem ne_zero_of_isDigit {c : Char} (h : c.isDigit = true) : '\x00' ≠ c := by
  rintro rfl
  exact absurd h (by decide)

theorem zero_not_mem_chars (sign : NumeralSign) : '\x00' ∉ sign.chars := by
  cases sign <;> decide

theorem takeSign_of_isDigit {c : Char} (h : c.isDigit = true) (cs : List Char) :
    takeSign (c :: cs) = (false, c :: cs) := by
  have hplus : c ≠ '+' := by rintro rfl; exact absurd h (by decide)
  have hminus : c ≠ '-' := by rintro rfl; exact absurd h (by decide)
  simp [takeSign, hplus, hminus]

/-- The sign of a numeral is taken off, and no digit with it. -/
theorem takeSign_chars (sign : NumeralSign) {digits : List Char} (hne : digits ≠ [])
    (hdigits : ∀ c ∈ digits, c.isDigit = true) (rest : List Char) :
    takeSign (sign.chars ++ (digits ++ rest)) = (decide (sign = .minus), digits ++ rest) := by
  cases sign with
  | plus => rfl
  | minus => rfl
  | absent =>
    obtain ⟨d, ds, rfl⟩ := List.exists_cons_of_ne_nil hne
    exact takeSign_of_isDigit (hdigits d List.mem_cons_self) _

/-- White space ends where the numeral begins. -/
theorem dropWhile_blanks {blanks : List Char} (hblanks : ∀ c ∈ blanks, isspace c = true)
    {cs : List Char} (hcs : ∀ c ∈ cs.head?, isspace c = false) :
    (blanks ++ cs).dropWhile isspace = cs := by
  rw [List.dropWhile_append_of_pos hblanks, dropWhile_of_head hcs]

namespace Numeral

variable (n : Numeral)

theorem head_not_isspace (rest : List Char) :
    ∀ c ∈ (n.sign.chars ++ (n.digits ++ rest)).head?, isspace c = false := by
  intro c hc
  refine isspace_eq_false ?_
  have hne := n.digits_ne_nil
  cases hsign : n.sign with
  | plus => exact Or.inr (Or.inl (by simpa [hsign, NumeralSign.chars, eq_comm] using hc))
  | minus => exact Or.inr (Or.inr (by simpa [hsign, NumeralSign.chars, eq_comm] using hc))
  | absent =>
    obtain ⟨d, ds, hcons⟩ := List.exists_cons_of_ne_nil hne
    have hd : d.isDigit = true := n.digits_isDigit d (by simp [hcons])
    simp only [hsign, NumeralSign.chars, hcons, List.nil_append, List.cons_append,
      List.head?_cons, Option.mem_some_iff] at hc
    exact Or.inl (hc ▸ hd)

/-- A numeral has no zero byte. -/
theorem zeroFree_text : ZeroFree n.text := by
  rw [ZeroFree, text, String.toList_ofList, List.mem_append, List.mem_append, not_or, not_or]
  refine ⟨fun hblank => ?_, zero_not_mem_chars n.sign, fun hdigit => ?_⟩
  · exact absurd (n.blanks_isspace _ hblank) (by decide)
  · exact ne_zero_of_isDigit (n.digits_isDigit _ hdigit) rfl

theorem text_ne_empty : n.text ≠ "" := by
  intro h
  have hnil : n.blanks ++ (n.sign.chars ++ n.digits) = [] := String.ofList_eq_empty_iff.mp h
  simp only [List.append_eq_nil_iff] at hnil
  exact n.digits_ne_nil hnil.2.2

/-- White space and the sign are taken off, and the digits stay. -/
theorem takeSign_text :
    takeSign (n.text.toList.dropWhile isspace) = (decide (n.sign = .minus), n.digits) := by
  have hhead := n.head_not_isspace []
  have hsign := takeSign_chars n.sign n.digits_ne_nil n.digits_isDigit []
  rw [List.append_nil] at hhead hsign
  rw [text, String.toList_ofList, dropWhile_blanks n.blanks_isspace hhead, hsign]

/-- The base the digits are read in, if they are plain: octal for a single zero, and decimal. -/
theorem integerBase_digits {base : ℕ} (hplain : n.Plain base) :
    (integerBase base n.digits).2 = n.digits ∧
      (n.digits = ['0'] ∨ (integerBase base n.digits).1 = 10) := by
  obtain ⟨d, ds, hcons⟩ := List.exists_cons_of_ne_nil n.digits_ne_nil
  have hdigits := n.digits_isDigit
  rw [hcons] at hdigits ⊢
  by_cases hzero : d = '0'
  · subst hzero
    rcases hplain with rfl | ⟨rfl, hone⟩
    · cases ds with
      | nil => exact ⟨rfl, Or.inl rfl⟩
      | cons x ds => cases ds <;> simp [integerBase]
    · have hsingle := hone (by rw [hcons]; rfl)
      rw [hcons] at hsingle
      rw [hsingle]
      exact ⟨rfl, Or.inl rfl⟩
  · have hbase : integerBase base (d :: ds) = (if base = 0 then 10 else base, d :: ds) := by
      unfold integerBase
      split
      · simp_all
      · simp_all
      · rfl
    rw [hbase]
    rcases hplain with rfl | ⟨rfl, -⟩ <;> simp

/-- The digits of a plain numeral are read whole. -/
theorem takeDigits_digits {base : ℕ} (hplain : n.Plain base) :
    takeDigits (integerBase base n.digits).1 (integerBase base n.digits).2 =
        (n.digits.map digitOf, []) ∧
      digitsValue (integerBase base n.digits).1 (n.digits.map digitOf) = n.magnitude := by
  have hread := takeDigits_append n.digits_isDigit [] (by simp)
  rw [List.append_nil] at hread
  obtain ⟨hsnd, hsingle | hten⟩ := n.integerBase_digits hplain
  · rw [hsnd, magnitude, hsingle]
    rcases hplain with rfl | ⟨rfl, -⟩
    · exact ⟨by decide, by decide⟩
    · exact ⟨by decide, by decide⟩
  · rw [hsnd, hten]
    exact ⟨hread, digitsValue_map n.digits⟩

end Numeral

/-- What is returned for a value: the value itself, or the bound it exceeds and `ERANGE`. -/
def clamped (lo hi value : ℤ) : Conversion ℤ :=
  if value < lo then ⟨lo, [], true⟩
  else if hi < value then ⟨hi, [], true⟩
  else ⟨value, [], false⟩

/-- **A numeral is read whole**, and its value is what it spells. -/
theorem strtoInteger_text (lo hi : ℤ) {base : ℕ} (n : Numeral) (hplain : n.Plain base) :
    strtoInteger lo hi base n.text = some (clamped lo hi n.value) := by
  obtain ⟨hread, hvalue⟩ := n.takeDigits_digits hplain
  have hne : n.digits.map digitOf ≠ [] := by simpa using n.digits_ne_nil
  simp only [strtoInteger, n.takeSign_text, hread, hne, if_false, hvalue, decide_eq_true_eq,
    Numeral.value, clamped]
  split_ifs <;> rfl

theorem integerBase_ten (cs : List Char) : integerBase 10 cs = (10, cs) := by
  unfold integerBase
  split <;> simp

theorem takeSign_spec (cs : List Char) :
    ∃ sign : NumeralSign, cs = sign.chars ++ (takeSign cs).2 ∧
      (takeSign cs).1 = decide (sign = .minus) := by
  unfold takeSign
  split
  · exact ⟨.minus, rfl, rfl⟩
  · exact ⟨.plus, rfl, rfl⟩
  · exact ⟨.absent, rfl, rfl⟩

/-- **Only numerals are read whole** in base 10. -/
theorem numeral_of_strtoInteger {lo hi : ℤ} {str : String} {read : Conversion ℤ}
    (h : strtoInteger lo hi 10 str = some read) (hrest : read.rest = []) :
    ∃ n : Numeral, n.text = str ∧ read = clamped lo hi n.value := by
  obtain ⟨sign, hsplit, -⟩ := takeSign_spec (str.toList.dropWhile isspace)
  obtain ⟨digits, hbody, hdigits, hvalues⟩ :=
    takeDigits_spec (takeSign (str.toList.dropWhile isspace)).2
  -- the rest that is returned is what follows the digits, and there are digits
  have hread : digits ≠ [] ∧
      (takeDigits 10 (takeSign (str.toList.dropWhile isspace)).2).2 = [] := by
    simp only [strtoInteger, integerBase_ten] at h
    split at h
    · contradiction
    · rename_i hne
      refine ⟨by simpa [hvalues] using hne, ?_⟩
      split_ifs at h <;> simpa [← Option.some.inj h] using hrest
  have hend := hread.2
  rw [hend, List.append_nil] at hbody
  let n : Numeral :=
    { blanks := str.toList.takeWhile isspace
      sign, digits
      blanks_isspace := fun c hc => List.mem_takeWhile_imp hc
      digits_isDigit := hdigits
      digits_ne_nil := hread.1 }
  have htext : n.text = str := by
    have hall : str.toList.takeWhile isspace ++ (sign.chars ++ digits) = str.toList := by
      rw [← hbody, ← hsplit, List.takeWhile_append_dropWhile]
    rw [Numeral.text, hall, String.ofList_toList]
  refine ⟨n, htext, ?_⟩
  have hwhole := strtoInteger_text lo hi n (Or.inl rfl)
  rw [htext, h] at hwhole
  exact Option.some.inj hwhole

/-! ## The numerals the program prints -/

/-- No numeral that is printed begins with a zero, except zero itself. -/
theorem toDigits_head (n : ℕ) (h : (Nat.toDigits 10 n).head? = some '0') : n = 0 := by
  induction n using Nat.strong_induction_on with
  | h n ih =>
    by_cases hn : n < 10
    · rw [Nat.toDigits_of_lt_base hn] at h
      interval_cases n <;> simp_all
    · have hlow : 10 ≤ n := not_lt.mp hn
      have hne : Nat.toDigits 10 (n / 10) ≠ [] := Nat.toDigits_ne_nil
      rw [Nat.toDigits_of_base_le (by omega) hlow, List.head?_append_of_ne_nil _ hne] at h
      have hzero := ih (n / 10) (by omega) h
      omega

/-- The numeral `std::to_string` gives an integer. -/
def Numeral.ofInt (n : ℤ) : Numeral where
  blanks := []
  sign := if n < 0 then .minus else .absent
  digits := Nat.toDigits 10 n.natAbs
  blanks_isspace := by simp
  digits_isDigit := fun c hc => Nat.isDigit_of_mem_toDigits (by omega) (by omega) hc
  digits_ne_nil := Nat.toDigits_ne_nil

namespace Numeral

@[simp] theorem magnitude_ofInt (n : ℤ) : (ofInt n).magnitude = n.natAbs :=
  Nat.ofDigitChars_ten_toDigits

@[simp] theorem value_ofInt (n : ℤ) : (ofInt n).value = n := by
  rw [value, magnitude_ofInt]
  by_cases hneg : n < 0
  · have hsign : (ofInt n).sign = .minus := if_pos hneg
    rw [if_pos hsign]
    omega
  · have hsign : (ofInt n).sign = .absent := if_neg hneg
    rw [if_neg (by simp [hsign])]
    omega

theorem text_ofInt (n : ℤ) : (ofInt n).text = toString n := by
  cases n with
  | ofNat n =>
    have hneg : ¬ ((n : ℤ) < 0) := by omega
    simp [text, ofInt, hneg, NumeralSign.chars, toString, Int.repr, Nat.repr]
  | negSucc n =>
    simp [text, ofInt, NumeralSign.chars, toString, Int.repr, Nat.repr, Int.negSucc_lt_zero]

theorem plain_ofInt (n : ℤ) {base : ℕ} (h : base = 10 ∨ base = 0) : (ofInt n).Plain base := by
  refine h.imp_right fun hzero => ⟨hzero, fun hhead => ?_⟩
  have hn : n.natAbs = 0 := toDigits_head n.natAbs hhead
  simp [ofInt, hn]

end Numeral

/-! ## The integers of the component -/

/-- The value a caller gets that accepts no range error. -/
theorem clamped_eq {lo hi value v : ℤ} :
    clamped lo hi value = ⟨v, [], false⟩ ↔ v = value ∧ lo ≤ value ∧ value ≤ hi := by
  unfold clamped
  split_ifs with hlow hhigh
  · simp only [Conversion.mk.injEq, reduceCtorEq, and_false, false_iff]
    omega
  · simp only [Conversion.mk.injEq, reduceCtorEq, and_false, false_iff]
    omega
  · simp only [Conversion.mk.injEq, and_true]
    omega

theorem zeroFree_toString (n : ℤ) : ZeroFree (toString n) := by
  rw [← Numeral.text_ofInt]
  exact (Numeral.ofInt n).zeroFree_text

/-- A printed integer is read back, in base 10 and in base 0. -/
theorem strtol_toString (n : ℤ) {base : ℕ} (h : base = 10 ∨ base = 0) :
    strtol (toString n) base = some (clamped (-2 ^ 63) (2 ^ 63 - 1) n) := by
  have hread := strtoInteger_text (-2 ^ 63) (2 ^ 63 - 1) (.ofInt n) (Numeral.plain_ofInt n h)
  rwa [Numeral.text_ofInt, Numeral.value_ofInt] at hread

end ThermalHal
