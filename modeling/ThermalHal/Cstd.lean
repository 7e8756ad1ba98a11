import Mathlib.Data.Int.Log
import Mathlib.Data.Rat.Floor

/-!
# The C library functions the component calls

`strtol`, `strtoll` and `strtod` as the C standard describes them, in the C
locale, for a 64-bit `long` and a binary64 `double`. A `std::string` is a Lean
`String`; the texts come out of zero-terminated buffers, so none contains a zero
byte and `c_str()` is the whole string.

A `double` is read as the exact number it stores. Values that are not numbers
keep constructors of their own, so that `std::isfinite` is a test.

## Main definitions

* `Double` — binary64 values read as exact numbers.
* `strtol`, `strtoll`, `strtod` — value, unparsed rest and `errno`.
-/

namespace ThermalHal

/-! ## Doubles -/

/-- A `double`, its finite values read as exact numbers. -/
inductive Double
  | finite (value : ℚ)
  | infinity (negative : Bool)
  | nan
  deriving DecidableEq, Repr

/-- `std::isfinite`, together with the number it is. -/
def Double.finite? : Double → Option ℚ
  | .finite value => some value
  | .infinity _ => none
  | .nan => none

theorem Double.finite?_eq_some {d : Double} {q : ℚ} : d.finite? = some q ↔ d = .finite q := by
  cases d <;> simp [Double.finite?]

/-! ## Texts -/

/-- No zero byte, as in every text that comes out of a zero-terminated buffer. -/
def ZeroFree (text : String) : Prop := '\x00' ∉ text.toList

instance : DecidablePred ZeroFree := fun text => inferInstanceAs (Decidable ('\x00' ∉ text.toList))

theorem zeroFree_append {text other : String} :
    ZeroFree (text ++ other) ↔ ZeroFree text ∧ ZeroFree other := by
  simp [ZeroFree]

/-! ## Characters and digits -/

/-- `isspace`: the blank and the five control characters from tab to return. -/
def isspace (c : Char) : Bool := c = ' ' || ('\t' ≤ c && c ≤ '\r')

theorem dropWhile_of_head {cs : List Char} (hcs : ∀ c ∈ cs.head?, isspace c = false) :
    cs.dropWhile isspace = cs := by
  cases cs with
  | nil => rfl
  | cons c cs => simp [hcs c (by simp)]

/-- The value of a digit or letter in a base up to 36. -/
def digitValue? (base : ℕ) (c : Char) : Option ℕ :=
  let value? :=
    if '0' ≤ c ∧ c ≤ '9' then some (c.toNat - '0'.toNat)
    else if 'a' ≤ c ∧ c ≤ 'z' then some (c.toNat - 'a'.toNat + 10)
    else if 'A' ≤ c ∧ c ≤ 'Z' then some (c.toNat - 'A'.toNat + 10)
    else none
  value?.filter (· < base)

/-- The longest run of digits at the front, and what follows it. -/
def takeDigits (base : ℕ) : List Char → List ℕ × List Char
  | [] => ([], [])
  | c :: cs =>
      match digitValue? base c with
      | some d => (d :: (takeDigits base cs).1, (takeDigits base cs).2)
      | none => ([], c :: cs)

/-- The number a run of digits spells. -/
def digitsValue (base : ℕ) (ds : List ℕ) : ℕ := ds.foldl (fun n d => n * base + d) 0

/-- An optional sign: whether it is a minus, and what follows it. -/
def takeSign : List Char → Bool × List Char
  | '-' :: cs => (true, cs)
  | '+' :: cs => (false, cs)
  | cs => (false, cs)

/-! ## Integers -/

/-- The outcome of a conversion that read something. -/
structure Conversion (α : Type) where
  /-- The returned value. -/
  value : α
  /-- What `endPtr` points at. -/
  rest : List Char
  /-- Whether `errno` was set to `ERANGE`. -/
  erange : Bool
  deriving DecidableEq

/-- The base a number is read in, and its digits: base 0 asks for the C prefixes. -/
def integerBase (base : ℕ) (cs : List Char) : ℕ × List Char :=
  match cs with
  | '0' :: x :: d :: rest =>
      if (base = 0 ∨ base = 16) ∧ (x = 'x' ∨ x = 'X') ∧ (digitValue? 16 d).isSome then
        (16, d :: rest)
      else (if base = 0 then 8 else base, cs)
  | '0' :: _ => (if base = 0 then 8 else base, cs)
  | _ => (if base = 0 then 10 else base, cs)

/-- The common body of the `strtol` family: white space, a sign and digits. Out of
the range of the type the bound is returned and `errno` is `ERANGE`. `none` is the
case `endPtr == str`. -/
def strtoInteger (lo hi : ℤ) (base : ℕ) (str : String) : Option (Conversion ℤ) :=
  let signed := takeSign (str.toList.dropWhile isspace)
  let based := integerBase base signed.2
  let digits := takeDigits based.1 based.2
  if digits.1 = [] then none
  else
    let magnitude : ℤ := digitsValue based.1 digits.1
    let value := if signed.1 then -magnitude else magnitude
    if value < lo then some ⟨lo, digits.2, true⟩
    else if hi < value then some ⟨hi, digits.2, true⟩
    else some ⟨value, digits.2, false⟩

/-- `strtol` with a 64-bit `long`. -/
def strtol (str : String) (base : ℕ) : Option (Conversion ℤ) :=
  strtoInteger (-2 ^ 63) (2 ^ 63 - 1) base str

/-- `strtoll`. -/
def strtoll (str : String) (base : ℕ) : Option (Conversion ℤ) :=
  strtoInteger (-2 ^ 63) (2 ^ 63 - 1) base str

/-! ## Floating point -/

/-- The nearest integer, the even one at a tie. -/
def roundEven (q : ℚ) : ℤ :=
  let k := ⌊q⌋
  if q - k < 1 / 2 then k
  else if 1 / 2 < q - k then k + 1
  else k + k % 2

/-- The spacing of the doubles around a positive number, subnormal ones included. -/
def ulp (q : ℚ) : ℚ := 2 ^ max (Int.log 2 q - 52) (-1074)

/-- Round a non-negative number to the nearest double. -/
def roundToDouble (q : ℚ) : ℚ := roundEven (q / ulp q) * ulp q

/-- The double for a non-negative number with a sign, and whether `errno` is set:
on overflow, and on a subnormal result that is not exact. -/
def toDouble (negative : Bool) (q : ℚ) : Double × Bool :=
  let r := roundToDouble q
  if 2 ^ 1024 ≤ r then (.infinity negative, true)
  else (.finite (if negative then -r else r), decide (q < 2 ^ (-1022 : ℤ) ∧ r ≠ q))

/-- Strip a word, given in lower case, from the front in any case. -/
def stripWord : List Char → List Char → Option (List Char)
  | [], cs => some cs
  | w :: ws, c :: cs => if c.toLower = w then stripWord ws cs else none
  | _ :: _, [] => none

/-- The optional `(n-char-sequence)` after `nan`. -/
def skipNanTag (cs : List Char) : List Char :=
  match cs with
  | '(' :: inner =>
      match inner.dropWhile fun c => c.isAlphanum || c = '_' with
      | ')' :: rest => rest
      | _ => cs
  | _ => cs

/-- Digits with an optional point and an optional exponent introduced by `marker`.
The exponent counts powers of `radix`, and `perDigit` of them for each digit behind
the point. -/
def floatBody (base : ℕ) (radix : ℚ) (perDigit : ℕ) (marker : Char) (cs : List Char) :
    Option (ℚ × List Char) :=
  let whole := takeDigits base cs
  let fraction :=
    match whole.2 with
    | '.' :: rest => takeDigits base rest
    | rest => ([], rest)
  if whole.1 ++ fraction.1 = [] then none
  else
    let mantissa : ℚ := digitsValue base (whole.1 ++ fraction.1)
    let scale : ℤ := -(perDigit * fraction.1.length : ℕ)
    let plain := some (mantissa * radix ^ scale, fraction.2)
    match fraction.2 with
    | e :: rest =>
        if e.toLower = marker then
          let signed := takeSign rest
          let digits := takeDigits 10 signed.2
          if digits.1 = [] then plain
          else
            let exponent : ℤ := digitsValue 10 digits.1
            some (mantissa * radix ^ (scale + if signed.1 then -exponent else exponent), digits.2)
        else plain
    | [] => plain

/-- A decimal or hexadecimal floating constant. A `0x` that no hexadecimal digit
follows is the decimal constant `0`. -/
def floatConstant (cs : List Char) : Option (ℚ × List Char) :=
  match cs with
  | '0' :: x :: rest =>
      if x.toLower = 'x' then (floatBody 16 2 4 'p' rest).or (floatBody 10 10 1 'e' cs)
      else floatBody 10 10 1 'e' cs
  | _ => floatBody 10 10 1 'e' cs

/-- `strtod`. `none` is the case `endPtr == str`. -/
def strtod (str : String) : Option (Conversion Double) :=
  let signed := takeSign (str.toList.dropWhile isspace)
  match stripWord "inf".toList signed.2 with
  | some rest => some ⟨.infinity signed.1, (stripWord "inity".toList rest).getD rest, false⟩
  | none =>
      match stripWord "nan".toList signed.2 with
      | some rest => some ⟨.nan, skipNanTag rest, false⟩
      | none =>
          (floatConstant signed.2).map fun (q, rest) =>
            ⟨(toDouble signed.1 q).1, rest, (toDouble signed.1 q).2⟩

example : strtod " -12.5e1x" = some ⟨.finite (-125), ['x'], false⟩ := by decide +kernel

example : strtol "0x1F" 0 = some ⟨31, [], false⟩ := by decide +kernel

end ThermalHal
