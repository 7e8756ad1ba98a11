import ThermalHal.RoundTrip
import ThermalHal.Sensor.Service

/-!
# The first reading, in doubles

A sensor that has not been sampled shows the middle of its operational range. Every other number
of the service is compared and copied only, but this one is computed, so here the arithmetic of
`double` matters: each of the three operations rounds, and the width of the range may overflow.

## Main definitions

* `roundDouble` — the double nearest to a number.
* `Double.add`, `Double.sub`, `Double.half` — the operations of the source.
* `initialTemperatureRounded` — `initialTemperatureForSensor` with them.
* `initialTemperature_in_range` — when the result lies in the range.
-/

namespace ThermalHal

/-! ## Arithmetic -/

/-- The double nearest to a number, or an infinity. -/
def roundDouble (q : ℚ) : Double := (toDouble (decide (q < 0)) |q|).1

namespace Double

def add : Double → Double → Double
  | .nan, _ => .nan
  | _, .nan => .nan
  | .infinity a, .infinity b => if a = b then .infinity a else .nan
  | .infinity a, .finite _ => .infinity a
  | .finite _, .infinity b => .infinity b
  | .finite x, .finite y => roundDouble (x + y)

def neg : Double → Double
  | .nan => .nan
  | .infinity a => .infinity (!a)
  | .finite x => .finite (-x)

def sub (x y : Double) : Double := x.add y.neg

/-- Division by two. -/
def half : Double → Double
  | .nan => .nan
  | .infinity a => .infinity a
  | .finite x => roundDouble (x / 2)

end Double

/-- `initialTemperatureForSensor`, each operation rounded. -/
def initialTemperatureRounded (config : ThermalSensorConfig) : Double :=
  let minTemperature := config.operationalTemperatureCelsius.min
  let maxTemperature := config.operationalTemperatureCelsius.max
  if minTemperature < maxTemperature then
    (Double.finite minTemperature).add
      ((Double.finite maxTemperature).sub (.finite minTemperature)).half
  else if 0 < config.triggers.criticalTemperatureRecoveredCelsius then
    .finite config.triggers.criticalTemperatureRecoveredCelsius
  else .finite 0

/-! ## Rounding between doubles -/

section Bounds

variable {a b q : ℚ}

theorem roundToDouble_le (hq : 0 ≤ q) (hqb : q ≤ b) (hb : IsDouble b) : roundToDouble q ≤ b := by
  rw [roundToDouble_eq]
  exact Lib.FloatFormat.roundTo_le hq hqb hb.1

theorem le_roundToDouble (ha0 : 0 ≤ a) (haq : a ≤ q) (ha : IsDouble a) : a ≤ roundToDouble q := by
  rw [roundToDouble_eq]
  exact Lib.FloatFormat.le_roundTo ha0 haq ha.1

theorem roundToDouble_nonneg (hq : 0 ≤ q) : 0 ≤ roundToDouble q :=
  le_roundToDouble le_rfl hq isDouble_zero

theorem lt_of_isDouble (hb : IsDouble b) (hb0 : 0 ≤ b) : b < 2 ^ 1024 := by
  have h := hb.2
  rwa [abs_of_nonneg hb0] at h

theorem roundDouble_of_nonneg (hq : 0 ≤ q) (hfinite : roundToDouble q < 2 ^ 1024) :
    roundDouble q = .finite (roundToDouble q) := by
  simp [roundDouble, toDouble, not_lt.mpr hq, abs_of_nonneg hq, not_le.mpr hfinite]

theorem roundDouble_of_neg (hq : q < 0) (hfinite : roundToDouble (-q) < 2 ^ 1024) :
    roundDouble q = .finite (-roundToDouble (-q)) := by
  simp [roundDouble, toDouble, hq, abs_of_neg hq, not_le.mpr hfinite]

/-- **A number between two doubles is rounded to a double between them.** -/
theorem roundDouble_between (ha : IsDouble a) (hb : IsDouble b) (haq : a ≤ q) (hqb : q ≤ b) :
    ∃ v, roundDouble q = .finite v ∧ IsDouble v ∧ a ≤ v ∧ v ≤ b := by
  have hdouble : ∀ {v : ℚ}, roundDouble q = .finite v → IsDouble v := by
    intro v hv
    exact isDouble_of_toDouble (abs_nonneg q) (Prod.ext hv rfl)
  rcases lt_or_ge q 0 with hneg | hpos
  · have hq : 0 ≤ -q := by linarith
    have hle := roundToDouble_le hq (neg_le_neg haq) ha.neg
    have hlt := lt_of_isDouble ha.neg (by linarith)
    have hround := roundDouble_of_neg hneg (hle.trans_lt hlt)
    refine ⟨_, hround, hdouble hround, by linarith, ?_⟩
    rcases lt_or_ge b 0 with hbneg | hbpos
    · have hge := le_roundToDouble (by linarith) (neg_le_neg hqb) hb.neg
      linarith
    · have hnonneg := roundToDouble_nonneg hq
      linarith
  · have hle := roundToDouble_le hpos hqb hb
    have hround := roundDouble_of_nonneg hpos
      (hle.trans_lt (lt_of_isDouble hb (hpos.trans hqb)))
    refine ⟨_, hround, hdouble hround, ?_, hle⟩
    rcases lt_or_ge a 0 with haneg | hapos
    · exact haneg.le.trans (roundToDouble_nonneg hpos)
    · exact le_roundToDouble hapos haq ha

end Bounds

/-! ## The middle of a range -/

section Midpoint

variable {a b : ℚ}

/-- The width of a range of doubles is a multiple of the least double. -/
theorem least_le_sub (ha : IsDouble a) (hb : IsDouble b) (hab : a < b) :
    (2 : ℚ) ^ (-1074 : ℤ) ≤ b - a := by
  have hmultiple : ∀ {q : ℚ}, IsDouble q → ∃ k : ℤ, q = k * 2 ^ (-1074 : ℤ) := by
    intro q hq
    obtain ⟨m, e, -, he, rfl⟩ := hq.1
    have hle : (-1074 : ℤ) ≤ e := he
    refine ⟨m * 2 ^ (e + 1074).toNat, ?_⟩
    have hsplit : (2 : ℚ) ^ e = 2 ^ (e + 1074).toNat * 2 ^ (-1074 : ℤ) := by
      rw [← zpow_natCast, ← zpow_add₀ (by norm_num)]
      congr 1
      omega
    rw [hsplit, ← mul_assoc]
    norm_cast
  obtain ⟨i, hi⟩ := hmultiple ha
  obtain ⟨j, hj⟩ := hmultiple hb
  have hpos := Lib.FloatFormat.two_zpow_pos (-1074)
  have hlt : i < j := by
    rw [hi, hj] at hab
    exact_mod_cast lt_of_mul_lt_mul_right hab hpos.le
  have hone : (1 : ℚ) ≤ (j : ℚ) - i := by exact_mod_cast (show (1 : ℤ) ≤ j - i by omega)
  calc (2 : ℚ) ^ (-1074 : ℤ) = 1 * 2 ^ (-1074 : ℤ) := (one_mul _).symm
    _ ≤ ((j : ℚ) - i) * 2 ^ (-1074 : ℤ) := mul_le_mul_of_nonneg_right hone hpos.le
    _ = b - a := by rw [sub_mul, ← hi, ← hj]

/-- A power of two from the least exponent on is a number of the format. -/
theorem representable_zpow {e : ℤ} (he : -1074 ≤ e) : binary64.Representable ((2 : ℚ) ^ e) :=
  ⟨1, e, by norm_num [binary64], he, by norm_num⟩

/-- **Half of the rounded width** is not more than the width. -/
theorem half_width (ha : IsDouble a) (hb : IsDouble b) (hab : a < b)
    (hfinite : roundToDouble (b - a) < 2 ^ 1024) :
    ∃ h, (roundDouble (b - a)).half = .finite h ∧ 0 ≤ h ∧ h ≤ b - a := by
  have hwidth : 0 < b - a := sub_pos.mpr hab
  -- the power of two below the width bounds one half, its double bounds the rounded width
  have hlog : -1074 ≤ Int.log 2 (b - a) := by
    rw [← Int.zpow_le_iff_le_log (by norm_num) hwidth]
    exact_mod_cast least_le_sub ha hb hab
  have hself := Int.zpow_log_le_self (b := 2) (by norm_num) hwidth
  have hsucc := Int.lt_zpow_succ_log_self (b := 2) (by norm_num) (b - a)
  push_cast at hself hsucc
  have hupper : roundToDouble (b - a) ≤ 2 ^ (Int.log 2 (b - a) + 1) := by
    rw [roundToDouble_eq]
    exact Lib.FloatFormat.roundTo_le hwidth.le hsucc.le (representable_zpow (by omega))
  have hlower : (2 : ℚ) ^ Int.log 2 (b - a) ≤ roundToDouble (b - a) := by
    rw [roundToDouble_eq]
    exact Lib.FloatFormat.le_roundTo (Lib.FloatFormat.two_zpow_pos _).le hself
      (representable_zpow hlog)
  have hpower : IsDouble ((2 : ℚ) ^ Int.log 2 (b - a)) := by
    refine ⟨representable_zpow hlog, ?_⟩
    rw [abs_of_pos (Lib.FloatFormat.two_zpow_pos _)]
    exact hlower.trans_lt hfinite
  have hhalf : roundToDouble (b - a) / 2 ≤ 2 ^ Int.log 2 (b - a) := by
    rw [zpow_add₀ (by norm_num), zpow_one] at hupper
    linarith
  have hnonneg : 0 ≤ roundToDouble (b - a) / 2 :=
    div_nonneg (roundToDouble_nonneg hwidth.le) (by norm_num)
  obtain ⟨h, hround, -, hzero, hle⟩ := roundDouble_between isDouble_zero hpower hnonneg hhalf
  refine ⟨h, ?_, hzero, hle.trans hself⟩
  rw [roundDouble_of_nonneg hwidth.le hfinite]
  exact hround

end Midpoint

theorem roundDouble_of_isDouble {q : ℚ} (h : IsDouble q) : roundDouble q = .finite q := by
  obtain ⟨v, hround, -, hle, hge⟩ := roundDouble_between h h le_rfl le_rfl
  rw [hround, le_antisymm hge hle]

/-- The rounded middle of a range of doubles, unless its width overflows. -/
theorem midpoint_cases {a b : ℚ} (ha : IsDouble a) (hb : IsDouble b) (hab : a < b) :
    (roundToDouble (b - a) < 2 ^ 1024 ∧
        ∃ v, (Double.finite a).add (roundDouble (b - a)).half = .finite v ∧ IsDouble v ∧
          a ≤ v ∧ v ≤ b) ∨
      2 ^ 1024 ≤ roundToDouble (b - a) ∧
        (Double.finite a).add (roundDouble (b - a)).half = .infinity false := by
  rcases lt_or_ge (roundToDouble (b - a)) (2 ^ 1024) with hfinite | hinfinite
  · obtain ⟨h, hhalf, hzero, hle⟩ := half_width ha hb hab hfinite
    obtain ⟨v, hround, hdouble, hav, hvb⟩ :=
      roundDouble_between ha hb (show a ≤ a + h by linarith) (show a + h ≤ b by linarith)
    exact Or.inl ⟨hfinite, v, by rw [hhalf]; exact hround, hdouble, hav, hvb⟩
  · have hwidth : 0 ≤ b - a := (sub_pos.mpr hab).le
    have hround : roundDouble (b - a) = .infinity false := by
      simp [roundDouble, toDouble, not_lt.mpr hwidth, abs_of_nonneg hwidth, hinfinite]
    exact Or.inr ⟨hinfinite, by rw [hround]; rfl⟩

/-- **The first reading of a sensor with a proper operational range** is a double in that range
exactly when the width of the range is rounded to a finite number, and an infinity otherwise. It
is the exact middle when the width, its half and the middle are doubles themselves. -/
theorem initialTemperature_in_range {cfg : ThermalHfpConfig} (hcfg : Accepted cfg)
    {c : ThermalSensorConfig} (hc : c ∈ cfg.sensors)
    (hrange : c.operationalTemperatureCelsius.min < c.operationalTemperatureCelsius.max) :
    let width := c.operationalTemperatureCelsius.max - c.operationalTemperatureCelsius.min
    ((∃ v, initialTemperatureRounded c = .finite v ∧ IsDouble v ∧
        c.operationalTemperatureCelsius.min ≤ v ∧ v ≤ c.operationalTemperatureCelsius.max) ↔
      roundToDouble width < 2 ^ 1024) ∧
    (2 ^ 1024 ≤ roundToDouble width → initialTemperatureRounded c = .infinity false) ∧
    (IsDouble width → IsDouble (width / 2) → IsDouble (initialTemperatureForSensor c) →
      initialTemperatureRounded c = .finite (initialTemperatureForSensor c)) := by
  intro width
  have hrepresentable := hcfg.representable c hc
  have hmin : IsDouble c.operationalTemperatureCelsius.min := hrepresentable.doubles
    ⟨"operational_temperature_celsius.min", fun c => c.operationalTemperatureCelsius.min⟩
    (by simp [optionalDoubles])
  have hmax : IsDouble c.operationalTemperatureCelsius.max := hrepresentable.doubles
    ⟨"operational_temperature_celsius.max", fun c => c.operationalTemperatureCelsius.max⟩
    (by simp [optionalDoubles])
  have heq : initialTemperatureRounded c =
      (Double.finite c.operationalTemperatureCelsius.min).add (roundDouble width).half := by
    simp only [initialTemperatureRounded, if_pos hrange, Double.sub, Double.neg]
    rw [show width = c.operationalTemperatureCelsius.max +
      -c.operationalTemperatureCelsius.min from sub_eq_add_neg _ _]
    rfl
  rw [heq]
  refine ⟨?_, ?_, ?_⟩
  · rcases midpoint_cases hmin hmax hrange with ⟨hfinite, hmiddle⟩ | ⟨hinfinite, hresult⟩
    · exact iff_of_true hmiddle hfinite
    · refine iff_of_false ?_ (not_lt.mpr hinfinite)
      rintro ⟨v, hv, -⟩
      rw [hresult] at hv
      contradiction
  · intro hinfinite
    rcases midpoint_cases hmin hmax hrange with ⟨hfinite, -⟩ | ⟨-, hresult⟩
    · exact absurd hfinite (not_lt.mpr hinfinite)
    · exact hresult
  · intro hwidth hhalf hmiddle
    rw [roundDouble_of_isDouble hwidth, Double.half, roundDouble_of_isDouble hhalf, Double.add]
    simp only [initialTemperatureForSensor, if_pos hrange] at hmiddle ⊢
    exact roundDouble_of_isDouble hmiddle

theorem initialTemperature_in_range_board :
    let width := boardSensor.operationalTemperatureCelsius.max -
      boardSensor.operationalTemperatureCelsius.min
    ((∃ v, initialTemperatureRounded boardSensor = .finite v ∧ IsDouble v ∧
        boardSensor.operationalTemperatureCelsius.min ≤ v ∧
        v ≤ boardSensor.operationalTemperatureCelsius.max) ↔
      roundToDouble width < 2 ^ 1024) ∧
    (2 ^ 1024 ≤ roundToDouble width → initialTemperatureRounded boardSensor = .infinity false) ∧
    (IsDouble width → IsDouble (width / 2) → IsDouble (initialTemperatureForSensor boardSensor) →
      initialTemperatureRounded boardSensor =
        .finite (initialTemperatureForSensor boardSensor)) :=
  initialTemperature_in_range boardProfile_accepted (by simp [boardProfile]) (by decide +kernel)

example : initialTemperatureRounded boardSensor = .finite (65 / 2) := by decide +kernel

end ThermalHal
