import Mathlib.Algebra.Order.Field.Power
import Mathlib.Algebra.Order.Floor.Semifield
import Mathlib.Data.List.DropRight
import Mathlib.Data.Rat.Floor
import Mathlib.Tactic.Linarith
import Mathlib.Tactic.NormNum
import Mathlib.Tactic.Positivity
import Mathlib.Tactic.Ring
import SessionScript.Decimal.Shortest
import SessionScript.Proofs.Text.Digits

/-!
# The digits of shortest decimals

The search for the shortest decimal of a number comes to an end: its guess of the decimal exponent
is not too small and not far off, and seventeen digits are enough for a grid point that rounds to
the number. What it finds is a decimal as it is written, with a first digit other than zero.
-/

namespace SessionScript

namespace Decimal

/-! ## Ratios -/

/-- The rational number that a ratio is. -/
def Ratio.toRat (r : Ratio) : ℚ := r.num / r.den

theorem Ratio.le_iff {a b : Ratio} (aden : 0 < a.den) (bden : 0 < b.den) :
    a.le b ↔ a.toRat ≤ b.toRat := by
  have apos : (0 : ℚ) < a.den := by exact_mod_cast aden
  have bpos : (0 : ℚ) < b.den := by exact_mod_cast bden
  rw [Ratio.le, decide_eq_true_iff, toRat, toRat, div_le_div_iff₀ apos bpos]
  exact_mod_cast Iff.rfl

theorem Ratio.lt_iff {a b : Ratio} (aden : 0 < a.den) (bden : 0 < b.den) :
    a.lt b ↔ a.toRat < b.toRat := by
  have apos : (0 : ℚ) < a.den := by exact_mod_cast aden
  have bpos : (0 : ℚ) < b.den := by exact_mod_cast bden
  rw [Ratio.lt, decide_eq_true_iff, toRat, toRat, div_lt_div_iff₀ apos bpos]
  exact_mod_cast Iff.rfl

theorem Ratio.scaled_den (n : Nat) (q : Int) : 0 < (Ratio.scaled n q).den := by
  rw [scaled]
  split
  · exact twoTo_pos _
  · exact Nat.one_pos

theorem Ratio.decimal_den (n : Nat) (k : Int) : 0 < (Ratio.decimal n k).den := by
  rw [decimal]
  split
  · exact tenTo_pos _
  · exact Nat.one_pos

theorem cast_twoTo (n : Nat) : ((twoTo n : Nat) : ℚ) = 2 ^ n := Nat.cast_pow 2 n

theorem cast_tenTo (n : Nat) : ((tenTo n : Nat) : ℚ) = 10 ^ n := Nat.cast_pow 10 n

/-- A base to the power of an integer, by the sign of the integer. -/
theorem mul_zpow_cases {b : ℚ} (n : ℚ) (q : Int) :
    n * b ^ q = if q < 0 then n / b ^ q.natAbs else n * b ^ q.natAbs := by
  split
  · rename_i negative
    have same : q = -(q.natAbs : Int) := by omega
    conv_lhs => rw [same, zpow_neg, zpow_natCast, ← div_eq_mul_inv]
  · rename_i positive
    have same : q = (q.natAbs : Int) := by omega
    conv_lhs => rw [same, zpow_natCast]

theorem Ratio.toRat_scaled (n : Nat) (q : Int) : (Ratio.scaled n q).toRat = n * 2 ^ q := by
  rw [mul_zpow_cases, scaled]
  split
  · rw [toRat, cast_twoTo]
  · rw [toRat, Nat.cast_mul, cast_twoTo, Nat.cast_one, div_one]

theorem Ratio.toRat_decimal (n : Nat) (k : Int) : (Ratio.decimal n k).toRat = n * 10 ^ k := by
  rw [mul_zpow_cases, decimal]
  split
  · rw [toRat, cast_tenTo]
  · rw [toRat, Nat.cast_mul, cast_tenTo, Nat.cast_one, div_one]

/-! ## Powers of two and of ten -/

/-- Powers of two bases are ordered like their exponents, weighed by two powers of the bases that
    are ordered. -/
theorem zpow_le_zpow_of_weights {a b : ℚ} (one : 1 ≤ a) (one' : 1 ≤ b) {p q : Nat} (some : p ≠ 0)
    (weights : a ^ p ≤ b ^ q) {t g : Int} (nonneg : 0 ≤ t) (order : q * t ≤ p * g) :
    a ^ t ≤ b ^ g := by
  have apos : 0 < a := by linarith
  have bpos : 0 < b := by linarith
  refine (pow_le_pow_iff_left₀ (by positivity) (by positivity) some).mp ?_
  obtain ⟨n, rfl⟩ := Int.eq_ofNat_of_zero_le nonneg
  calc (a ^ (n : Int)) ^ p = (a ^ p) ^ n := by rw [zpow_natCast, ← pow_mul, ← pow_mul, mul_comm]
    _ ≤ (b ^ q) ^ n := pow_le_pow_left₀ (by positivity) weights n
    _ = b ^ ((q : Int) * n) := by rw [zpow_mul, zpow_natCast, zpow_natCast]
    _ ≤ b ^ ((p : Int) * g) := zpow_le_zpow_right₀ one' order
    _ = (b ^ g) ^ p := by rw [mul_comm, zpow_mul, zpow_natCast]

/-- `log₁₀ 2` is at most `16 / 53`. -/
theorem two_zpow_le {t g : Int} (nonneg : 0 ≤ t) (order : 16 * t ≤ 53 * g) :
    (2 : ℚ) ^ t ≤ 10 ^ g :=
  zpow_le_zpow_of_weights (by norm_num) (by norm_num) (p := 53) (q := 16) (by decide) (by norm_num)
    nonneg order

/-- `log₁₀ 2` is at least `59 / 196`. -/
theorem ten_zpow_le {t g : Int} (nonneg : 0 ≤ t) (order : 196 * g ≤ 59 * t) :
    (10 : ℚ) ^ g ≤ 2 ^ t := by
  rcases le_total 0 g with positive | negative
  · exact zpow_le_zpow_of_weights (by norm_num) (by norm_num) (p := 59) (q := 196) (by decide)
      (by norm_num) positive order
  · exact (zpow_le_one_of_nonpos₀ (by norm_num) negative).trans (one_le_zpow₀ (by norm_num) nonneg)

theorem two_zpow_le_of_nonpos {t g : Int} (nonpos : t ≤ 0) (order : 59 * t ≤ 196 * g) :
    (2 : ℚ) ^ t ≤ 10 ^ g := by
  have turned : (10 : ℚ) ^ (-g) ≤ 2 ^ (-t) := ten_zpow_le (by omega) (by omega)
  rwa [zpow_neg, zpow_neg, inv_le_inv₀ (by positivity) (by positivity)] at turned

theorem ten_zpow_le_of_nonpos {t g : Int} (nonpos : t ≤ 0) (order : 53 * g ≤ 16 * t) :
    (10 : ℚ) ^ g ≤ 2 ^ t := by
  have turned : (2 : ℚ) ^ (-t) ≤ 10 ^ (-g) := two_zpow_le (by omega) (by omega)
  rwa [zpow_neg, zpow_neg, inv_le_inv₀ (by positivity) (by positivity)] at turned

/-! ## The decimal exponent -/

/-- The search downward finds the exponent if it starts above it and not too far away. -/
theorem exponentBelow_spec {r : Ratio} (den : 0 < r.den) :
    ∀ (fuel : Nat) (e : Int), r.toRat < 10 ^ (e + 1) →
      (∃ j : Nat, j < fuel ∧ 10 ^ (e - j) ≤ r.toRat) →
      10 ^ exponentBelow r fuel e ≤ r.toRat ∧ r.toRat < 10 ^ (exponentBelow r fuel e + 1) := by
  intro fuel
  induction fuel with
  | zero => exact fun e _ ⟨j, few, _⟩ => absurd few (Nat.not_lt_zero j)
  | succ fuel ih =>
    rintro e above ⟨j, near, below⟩
    have reached : (Ratio.decimal 1 e).le r ↔ (10 : ℚ) ^ e ≤ r.toRat := by
      rw [Ratio.le_iff (Ratio.decimal_den 1 e) den, Ratio.toRat_decimal, Nat.cast_one, one_mul]
    rw [exponentBelow]
    split
    · rename_i found
      exact ⟨reached.mp found, above⟩
    · rename_i missed
      have smaller : r.toRat < 10 ^ (e - 1 + 1) := by
        rw [sub_add_cancel]
        exact not_le.mp fun there => missed (reached.mpr there)
      match j, near, below with
      | 0, _, below => exact absurd (reached.mpr (by simpa using below)) missed
      | j + 1, near, below =>
        refine ih (e - 1) smaller ⟨j, by omega, ?_⟩
        have same : e - 1 - (j : Int) = e - (j + 1 : Nat) := by omega
        rwa [same]

/-- The numbers of binary digits enclose a ratio. -/
theorem Ratio.between {r : Ratio} (num : 0 < r.num) (den : 0 < r.den) {twos : Int}
    (known : twos = (r.num.log2 : Int) - r.den.log2 + 1) :
    (2 : ℚ) ^ (twos - 2) ≤ r.toRat ∧ r.toRat < 2 ^ twos := by
  have denpos : (0 : ℚ) < r.den := by exact_mod_cast den
  have numLow : (2 : ℚ) ^ r.num.log2 ≤ r.num := by
    exact_mod_cast Nat.log2_self_le num.ne'
  have numHigh : (r.num : ℚ) < 2 ^ (r.num.log2 + 1) := by
    exact_mod_cast Nat.lt_log2_self
  have denLow : (2 : ℚ) ^ r.den.log2 ≤ r.den := by
    exact_mod_cast Nat.log2_self_le den.ne'
  have denHigh : (r.den : ℚ) < 2 ^ (r.den.log2 + 1) := by
    exact_mod_cast Nat.lt_log2_self
  constructor
  · have same : twos - 2 = (r.num.log2 : Int) - (r.den.log2 + 1 : Nat) := by omega
    rw [same, zpow_sub₀ two_ne_zero, zpow_natCast, zpow_natCast, toRat]
    exact div_le_div₀ (by positivity) numLow denpos denHigh.le
  · have same : twos = (r.num.log2 + 1 : Nat) - (r.den.log2 : Int) := by omega
    rw [same, zpow_sub₀ two_ne_zero, zpow_natCast, zpow_natCast, toRat]
    exact div_lt_div₀ numHigh denLow (by positivity) (by positivity)

/-- The exponent of a ratio that is not extremely large or small is the one of its first decimal
    digit. -/
theorem exponentOf_spec {r : Ratio} (num : 0 < r.num) (den : 0 < r.den)
    (large : 2 ^ (-2000 : Int) ≤ r.toRat) (small : r.toRat ≤ 2 ^ (2000 : Int)) :
    10 ^ exponentOf r ≤ r.toRat ∧ r.toRat < 10 ^ (exponentOf r + 1) := by
  rw [exponentOf]
  generalize known : (r.num.log2 : Int) - (r.den.log2 : Int) + 1 = twos
  obtain ⟨low, high⟩ := Ratio.between num den known.symm
  have twosLow : -2000 < twos :=
    (zpow_lt_zpow_iff_right₀ (by norm_num : (1 : ℚ) < 2)).mp (large.trans_lt high)
  have twosHigh : twos - 2 ≤ 2000 :=
    (zpow_le_zpow_iff_right₀ (by norm_num : (1 : ℚ) < 2)).mp (low.trans small)
  refine exponentBelow_spec den 20 _ ?_ ⟨19, by decide, ?_⟩
  · refine high.trans_le ?_
    rcases le_or_gt 0 twos with nonneg | negative
    · exact two_zpow_le nonneg (by rw [if_neg (by omega)]; omega)
    · exact two_zpow_le_of_nonpos negative.le (by rw [if_pos negative]; omega)
  · refine le_trans ?_ low
    rcases le_or_gt 2 twos with nonneg | negative
    · exact ten_zpow_le (by omega) (by rw [if_neg (by omega)]; omega)
    · exact ten_zpow_le_of_nonpos (by omega) (by split <;> omega)

/-! ## Grid points -/

/-- What makes the ends of an interval ends around its value. -/
structure Interval.Valid (i : Interval) : Prop where
  lowDen : 0 < i.low.den
  valueDen : 0 < i.value.den
  highDen : 0 < i.high.den
  positive : 0 < i.low.toRat
  low_lt : i.low.toRat < i.value.toRat
  lt_high : i.value.toRat < i.high.toRat

namespace Interval

variable {i : Interval} (valid : i.Valid)
include valid

/-- A decimal inside the interval is not below its low end. -/
theorem Valid.low_le {d : Nat} {k : Int} (inside : i.has (.decimal d k)) :
    i.low.toRat ≤ d * 10 ^ k := by
  rw [← Ratio.toRat_decimal]
  rw [has] at inside
  split at inside
  · exact (Ratio.le_iff valid.lowDen (Ratio.decimal_den d k)).mp (Bool.and_eq_true_iff.mp inside).1
  · exact ((Ratio.lt_iff valid.lowDen (Ratio.decimal_den d k)).mp
      (Bool.and_eq_true_iff.mp inside).1).le

/-- A decimal strictly between the ends is inside the interval. -/
theorem Valid.has_of_between {d : Nat} {k : Int} (low : i.low.toRat < d * 10 ^ k)
    (high : d * 10 ^ k < i.high.toRat) : i.has (.decimal d k) := by
  rw [← Ratio.toRat_decimal] at low high
  have den := Ratio.decimal_den d k
  rw [has]
  split
  · exact Bool.and_eq_true_iff.mpr
      ⟨(Ratio.le_iff valid.lowDen den).mpr low.le, (Ratio.le_iff den valid.highDen).mpr high.le⟩
  · exact Bool.and_eq_true_iff.mpr
      ⟨(Ratio.lt_iff valid.lowDen den).mpr low, (Ratio.lt_iff den valid.highDen).mpr high⟩

/-- The grid point below the value, and the one above it. -/
theorem Valid.around (k : Int) {below : Nat}
    (known : i.value.num * (Ratio.decimal 1 k).den / (i.value.den * (Ratio.decimal 1 k).num) =
      below) :
    below * 10 ^ k ≤ i.value.toRat ∧ i.value.toRat < (below + 1 : Nat) * 10 ^ k := by
  have step : (0 : ℚ) < 10 ^ k := by positivity
  have quotient : i.value.toRat / 10 ^ k =
      (i.value.num * (Ratio.decimal 1 k).den : Nat) /
        ((i.value.den * (Ratio.decimal 1 k).num : Nat) : ℚ) := by
    have unit := Ratio.toRat_decimal 1 k
    rw [Nat.cast_one, one_mul] at unit
    rw [← unit, Ratio.toRat, Ratio.toRat, div_div_div_eq, Nat.cast_mul, Nat.cast_mul]
  have floor : ⌊i.value.toRat / 10 ^ k⌋₊ = below := by
    rw [quotient, Nat.floor_div_eq_div, known]
  have nonneg : 0 ≤ i.value.toRat / 10 ^ k :=
    div_nonneg (valid.positive.trans valid.low_lt).le step.le
  constructor
  · rw [← le_div_iff₀ step, ← floor]
    exact Nat.floor_le nonneg
  · rw [← div_lt_iff₀ step, ← floor, Nat.cast_succ]
    exact Nat.lt_floor_add_one _

/-- The grid point that is taken is positive and at most one step above the value. -/
theorem Valid.onGrid_some {k : Int} {d : Nat} (found : onGrid i k = some d) :
    d ≠ 0 ∧ d * 10 ^ k ≤ i.value.toRat + 10 ^ k := by
  have inside (n : Nat) (has : i.has (.decimal n k) = true) : n ≠ 0 := by
    rintro rfl
    have low := valid.low_le has
    rw [Nat.cast_zero, zero_mul] at low
    exact absurd valid.positive (not_lt.mpr low)
  rw [onGrid] at found
  generalize known : i.value.num * (Ratio.decimal 1 k).den /
    (i.value.den * (Ratio.decimal 1 k).num) = below at found
  obtain ⟨lower, -⟩ := valid.around k known
  have step : (0 : ℚ) < 10 ^ k := by positivity
  have aboveLe : ((below + 1 : Nat) : ℚ) * 10 ^ k ≤ i.value.toRat + 10 ^ k := by
    rw [Nat.cast_succ, add_one_mul]
    linarith
  have taken : (d = below ∧ i.has (.decimal below k)) ∨
      (d = below + 1 ∧ i.has (.decimal (below + 1) k)) := by
    grind
  rcases taken with ⟨rfl, has⟩ | ⟨rfl, has⟩
  · exact ⟨inside _ has, by linarith⟩
  · exact ⟨inside _ has, aboveLe⟩

/-- A grid whose steps are smaller than the interval has a point inside. -/
theorem Valid.onGrid_isSome {k : Int} (narrow : 10 ^ k < i.high.toRat - i.low.toRat) :
    (onGrid i k).isSome := by
  rw [onGrid]
  generalize known : i.value.num * (Ratio.decimal 1 k).den /
    (i.value.den * (Ratio.decimal 1 k).num) = below
  obtain ⟨lower, upper⟩ := valid.around k known
  have one : i.has (.decimal below k) ∨ i.has (.decimal (below + 1) k) := by
    rcases lt_or_ge i.low.toRat (below * 10 ^ k) with above | under
    · exact .inl (valid.has_of_between above (lower.trans_lt valid.lt_high))
    · refine .inr (valid.has_of_between (valid.low_lt.trans upper) ?_)
      rw [Nat.cast_succ, add_one_mul]
      linarith
  grind

end Interval

/-- The search for a grid ends with the first grid that has a point. -/
theorem firstGrid_spec {i : Interval} {e : Int} :
    ∀ (fuel n : Nat), (∃ j, n ≤ j ∧ j < n + fuel ∧ (onGrid i (e + 1 - j)).isSome) →
      ∃ (j d : Nat), n ≤ j ∧ j < n + fuel ∧ onGrid i (e + 1 - j) = some d ∧
        firstGrid i e fuel n = (d, e + 1 - j) := by
  intro fuel
  induction fuel with
  | zero => exact fun n ⟨j, least, most, _⟩ => absurd most (Nat.not_lt.mpr least)
  | succ fuel ih =>
    rintro n ⟨j, least, most, there⟩
    rw [firstGrid]
    cases point : onGrid i (e + 1 - n) with
    | some d => exact ⟨n, d, le_rfl, by omega, point, rfl⟩
    | none =>
      have later : n ≠ j := by
        rintro rfl
        simp [point] at there
      obtain ⟨j', d, least', most', found, same⟩ := ih (n + 1) ⟨j, by omega, by omega, there⟩
      exact ⟨j', d, by omega, by omega, found, same⟩

end Decimal

/-! ## Finite numbers -/

namespace Binary64

/-- A number that is finite and not zero. -/
structure IsProper (x : Binary64) : Prop where
  finite : x.isFinite
  nonzero : ¬ x.isZero

variable {x : Binary64}

theorem fraction_lt (x : Binary64) : x.fraction < 2 ^ 52 :=
  Nat.mod_lt _ (by decide)

theorem exponentField_le (finite : x.isFinite) : x.exponentField ≤ 2046 := by
  have bound : x.exponentField < 2048 := Nat.mod_lt _ (by decide)
  have other : x.exponentField ≠ 2047 := by simpa [isFinite] using finite
  omega

theorem IsProper.significand_pos (proper : x.IsProper) : 0 < x.significand := by
  have nonzero := proper.nonzero
  rw [significand]
  split
  · rename_i field
    simp only [isZero, field, Bool.true_and, beq_iff_eq] at nonzero
    omega
  · exact Nat.add_pos_right _ (twoTo_pos 52)

theorem significand_lt (x : Binary64) : x.significand < 2 ^ 53 := by
  have bound := x.fraction_lt
  rw [significand]
  split
  · omega
  · have same : twoTo 52 = 2 ^ 52 := rfl
    omega

theorem scale_bounds (finite : x.isFinite) : -1074 ≤ x.scale ∧ x.scale ≤ 971 := by
  have bound := exponentField_le finite
  rw [scale]
  split
  · omega
  · rename_i field
    have some : x.exponentField ≠ 0 := by simpa using field
    omega

/-- The fields of a number lie below its sign. -/
theorem fields_eq (x : Binary64) :
    x.exponentField = x.bits.toNat % 2 ^ 63 / 2 ^ 52 ∧
      x.fraction = x.bits.toNat % 2 ^ 63 % 2 ^ 52 :=
  ⟨(Nat.mod_mul_right_div_self _ (2 ^ 52) (2 ^ 11)).symm,
    (Nat.mod_mod_of_dvd _ (Nat.pow_dvd_pow 2 (by decide))).symm⟩

/-- The sign is all that a number loses without it. -/
theorem abs_fields (x : Binary64) :
    x.abs.exponentField = x.exponentField ∧ x.abs.fraction = x.fraction := by
  have magnitude : x.abs.bits.toNat % 2 ^ 63 = x.bits.toNat % 2 ^ 63 := by
    rw [abs]
    split
    · have sign : (0x8000000000000000 : UInt64).toNat % 2 ^ 63 = 0 := by decide
      rw [neg, UInt64.toNat_xor, Nat.xor_mod_two_pow, sign, Nat.xor_zero]
    · rfl
  simp only [fields_eq, magnitude, and_self]

theorem IsProper.abs (proper : x.IsProper) : x.abs.IsProper := by
  obtain ⟨field, fraction⟩ := x.abs_fields
  refine ⟨?_, ?_⟩
  · rw [isFinite, field]
    exact proper.finite
  · rw [isZero, field, fraction]
    exact proper.nonzero

end Binary64

namespace Decimal

open Binary64

variable {x : Binary64} (proper : x.IsProper)

/-- The distance of the lower end from a number, in quarters of its unit. -/
def Interval.down (x : Binary64) : Nat :=
  if x.fraction = 0 && 1 < x.exponentField then 1 else 2

theorem Interval.down_cases (x : Binary64) :
    (down x = 1 ∧ x.significand = 2 ^ 52) ∨ down x = 2 := by
  rw [down]
  split
  · rename_i power
    obtain ⟨fraction, field⟩ : x.fraction = 0 ∧ 1 < x.exponentField := by simpa using power
    have normal : ¬ x.exponentField = 0 := by omega
    exact .inl ⟨rfl, by simp [significand, normal, fraction]; rfl⟩
  · exact .inr rfl

theorem Interval.of_toRat (x : Binary64) :
    (of x).low.toRat = (4 * x.significand - down x : Nat) * 2 ^ (x.scale - 2) ∧
      (of x).value.toRat = (4 * x.significand : Nat) * 2 ^ (x.scale - 2) ∧
      (of x).high.toRat = (4 * x.significand + 2 : Nat) * 2 ^ (x.scale - 2) :=
  ⟨Ratio.toRat_scaled .., Ratio.toRat_scaled .., Ratio.toRat_scaled ..⟩

include proper

/-- The interval of a number lies around it. -/
theorem Interval.of_valid : (of x).Valid := by
  obtain ⟨low, value, high⟩ := of_toRat x
  have unit : (0 : ℚ) < 2 ^ (x.scale - 2) := by positivity
  have some := proper.significand_pos
  have near := down_cases x
  refine ⟨Ratio.scaled_den .., Ratio.scaled_den .., Ratio.scaled_den .., ?_, ?_, ?_⟩
  · rw [low]
    exact mul_pos (by exact_mod_cast (by omega : 0 < 4 * x.significand - down x)) unit
  · rw [low, value]
    exact mul_lt_mul_of_pos_right
      (by exact_mod_cast (by omega : 4 * x.significand - down x < 4 * x.significand)) unit
  · rw [value, high]
    exact mul_lt_mul_of_pos_right (by exact_mod_cast (by omega)) unit

/-- A number is neither extremely large nor extremely small. -/
theorem Interval.value_bounds :
    2 ^ (-2000 : Int) ≤ (of x).value.toRat ∧ (of x).value.toRat ≤ 2 ^ (2000 : Int) := by
  obtain ⟨-, value, -⟩ := of_toRat x
  obtain ⟨least, most⟩ := scale_bounds proper.finite
  have some := proper.significand_pos
  have bound := x.significand_lt
  have one : (1 : ℚ) ≤ (4 * x.significand : Nat) := by exact_mod_cast (by omega)
  have few : ((4 * x.significand : Nat) : ℚ) ≤ 2 ^ (55 : Int) := by
    exact_mod_cast (by omega : 4 * x.significand ≤ 2 ^ 55)
  rw [value]
  constructor
  · calc (2 : ℚ) ^ (-2000 : Int) ≤ 2 ^ (x.scale - 2) :=
          zpow_le_zpow_right₀ one_le_two (by omega)
      _ ≤ (4 * x.significand : Nat) * 2 ^ (x.scale - 2) :=
          le_mul_of_one_le_left (by positivity) one
  · calc ((4 * x.significand : Nat) : ℚ) * 2 ^ (x.scale - 2)
        ≤ 2 ^ (55 : Int) * 2 ^ (x.scale - 2) := mul_le_mul_of_nonneg_right few (by positivity)
      _ = 2 ^ (55 + (x.scale - 2)) := (zpow_add₀ two_ne_zero _ _).symm
      _ ≤ 2 ^ (2000 : Int) := zpow_le_zpow_right₀ one_le_two (by omega)

theorem exponentOf_value :
    10 ^ exponentOf (Interval.of x).value ≤ (Interval.of x).value.toRat ∧
      (Interval.of x).value.toRat < 10 ^ (exponentOf (Interval.of x).value + 1) := by
  obtain ⟨large, small⟩ := Interval.value_bounds proper
  have den : 0 < (Interval.of x).value.den := Ratio.scaled_den ..
  refine exponentOf_spec ?_ den large small
  have positive : 0 < (Interval.of x).value.toRat := lt_of_lt_of_le (by positivity) large
  rw [Ratio.toRat, div_pos_iff_of_pos_right (by exact_mod_cast den)] at positive
  exact_mod_cast positive

/-- Seventeen digits are enough for a decimal that rounds to the number. -/
theorem seventeen_digits :
    (onGrid (Interval.of x) (exponentOf (Interval.of x).value + 1 - (17 : Nat))).isSome := by
  obtain ⟨low, value, high⟩ := Interval.of_toRat x
  obtain ⟨least, -⟩ := exponentOf_value proper
  refine (Interval.of_valid proper).onGrid_isSome ?_
  have some := proper.significand_pos
  have bound := x.significand_lt
  have near := Interval.down_cases x
  have unit : (0 : ℚ) < 2 ^ (x.scale - 2) := by positivity
  -- in quarters of the unit of the number, its width beats its value
  have wide : ((4 * x.significand : Nat) : ℚ) <
      (4 * x.significand + 2 : Nat) * 10 ^ 16 -
        (4 * x.significand - Interval.down x : Nat) * 10 ^ 16 := by
    rw [← sub_mul, ← Nat.cast_sub (by omega)]
    exact_mod_cast (by omega)
  have step : exponentOf (Interval.of x).value + 1 - (17 : Nat) =
      exponentOf (Interval.of x).value - 16 := by omega
  have power : (10 : ℚ) ^ (16 : Int) = 10 ^ 16 := zpow_natCast 10 16
  rw [step, zpow_sub₀ (by norm_num), power, div_lt_iff₀ (by positivity)]
  refine least.trans_lt ?_
  rw [low, value, high]
  calc ((4 * x.significand : Nat) : ℚ) * 2 ^ (x.scale - 2)
      < ((4 * x.significand + 2 : Nat) * 10 ^ 16 -
          (4 * x.significand - Interval.down x : Nat) * 10 ^ 16) * 2 ^ (x.scale - 2) :=
        mul_lt_mul_of_pos_right wide unit
    _ = _ := by ring

/-- The grid point that the shortest decimal is made from is positive and has few digits. -/
theorem firstGrid_bounds {d : Nat} {k : Int}
    (found : firstGrid (Interval.of x) (exponentOf (Interval.of x).value) 17 1 = (d, k)) :
    d ≠ 0 ∧ d < 10 ^ 20 := by
  obtain ⟨j, d', -, most, point, same⟩ := firstGrid_spec 17 1
    ⟨17, by decide, by decide, seventeen_digits proper⟩
  obtain ⟨rfl, rfl⟩ := Prod.mk.inj (same.symm.trans found)
  obtain ⟨some, near⟩ := (Interval.of_valid proper).onGrid_some point
  refine ⟨some, ?_⟩
  obtain ⟨-, above⟩ := exponentOf_value proper
  generalize exponentOf (Interval.of x).value = e at *
  have step : (0 : ℚ) < 10 ^ (e + 1 - j) := by positivity
  have same : (10 : ℚ) ^ (e + 1) = 10 ^ j * 10 ^ (e + 1 - j) := by
    rw [← zpow_natCast, ← zpow_add₀ (by norm_num)]
    congr 1
    omega
  have below : (d' : ℚ) * 10 ^ (e + 1 - j) < (10 ^ j + 1) * 10 ^ (e + 1 - j) := by
    rw [add_one_mul, ← same]
    linarith
  have less : d' < 10 ^ j + 1 := by exact_mod_cast lt_of_mul_lt_mul_right below step.le
  have pow : 10 ^ j ≤ 10 ^ 17 := Nat.pow_le_pow_right (by decide) (by omega)
  omega

omit proper

/-! ## Digits -/

theorem digitsOf_eq (fuel : Nat) :
    ∀ n acc, digitsOf fuel n acc = Text.digitsInto 10 fuel n acc := by
  induction fuel with
  | zero => exact fun n acc => rfl
  | succ fuel ih =>
    intro n acc
    have digit : Char.ofNat (48 + n % 10) = Text.digitChar (n % 10) := by
      rw [Text.digitChar, if_pos (Nat.mod_lt n (by decide))]
    simp only [digitsOf, Text.digitsInto, digit, ih]

/-- A decimal as it is written: digits of which the first one is not zero. -/
structure IsWritten (d : Decimal) : Prop where
  digit : ∀ c ∈ d.digits, ∃ n < 10, c = Text.digitChar n
  leading : ∃ n ns, d.digits = Text.digitChar n :: ns ∧ 0 < n ∧ n < 10

/-- The shortest decimal of a number is one as it is written. -/
theorem shortest_isWritten (proper : x.IsProper) : (shortest x).IsWritten := by
  rw [shortest]
  generalize found : firstGrid (Interval.of x) (exponentOf (Interval.of x).value) 17 1 = point
  obtain ⟨d, k⟩ := point
  obtain ⟨some, few⟩ := firstGrid_bounds proper found
  obtain ⟨n, ns, digits, positive, small⟩ := Text.digitsInto_head (by decide) 20 d [] some few
  have nonzero : Text.digitChar n ≠ '0' := by
    have each : ∀ n < 10, 0 < n → Text.digitChar n ≠ '0' := by decide
    exact each n small positive
  simp only [digitsOf_eq]
  constructor
  · intro c kept
    have among : c ∈ Text.digitsInto 10 20 d [] :=
      (List.rdropWhile_prefix (· == '0') _).subset kept
    exact (Text.mem_digitsInto (by decide) 20 d [] c among).resolve_left List.not_mem_nil
  · rw [digits, List.reverse_cons, List.dropWhile_append]
    split
    · exact ⟨n, [], by simp [nonzero], positive, small⟩
    · exact ⟨n, _, by rw [List.reverse_append]; rfl, positive, small⟩

end Decimal

end SessionScript
