import Conform.Value.Equality
import Mathlib.Algebra.Order.Field.Power
import Mathlib.Algebra.Order.Field.Rat
import Mathlib.Tactic.Positivity

/-!
The rational numbers that decimals denote. Two decimals are compared in units of the smaller of
their exponents, where both are integers; so order, equality and divisibility of decimals are
those of the rationals, whatever the magnitudes.
-/
namespace Conform

namespace Decimal

/-- The number that the decimal denotes. -/
def toRat (d : Decimal) : ℚ := d.coefficient * 10 ^ d.exponent

variable {a b d : Decimal} {e : Int}

theorem toRat_ofInt (n : Int) : (ofInt n).toRat = n := by
  have hn : (ofInt n).coefficient = n := by
    simp only [ofInt, coefficient, decide_eq_true_eq]
    split <;> omega
  rw [toRat, hn]
  exact (congrArg ((n : ℚ) * ·) (zpow_zero 10)).trans (mul_one _)

theorem unit_pos (e : Int) : (0 : ℚ) < 10 ^ e := by positivity

/-- In units of `10 ^ e` the decimal is an integer. -/
theorem unitsAt_mul (h : e ≤ d.exponent) : (d.unitsAt e : ℚ) * 10 ^ e = d.toRat := by
  obtain ⟨n, hn⟩ := Int.eq_ofNat_of_zero_le (Int.sub_nonneg.mpr h)
  have hd : d.exponent = n + e := by omega
  -- a natural power on the side of the integers, so that the cast goes through
  have hunits : d.unitsAt e = d.coefficient * (10 : Int) ^ n := by
    rw [unitsAt, hn, Int.toNat_natCast]
    norm_cast
  calc (d.unitsAt e : ℚ) * 10 ^ e
      = d.coefficient * 10 ^ n * 10 ^ e := by
        rw [hunits]
        push_cast
        rfl
    _ = d.coefficient * 10 ^ (n + e) := by
        rw [mul_assoc, zpow_add₀ (by norm_num), zpow_natCast]
    _ = d.toRat := by rw [toRat, hd]

theorem toRat_eq_left (a b : Decimal) :
    a.toRat = a.unitsAt (min a.exponent b.exponent) * 10 ^ min a.exponent b.exponent :=
  (unitsAt_mul (min_le_left ..)).symm

theorem toRat_eq_right (a b : Decimal) :
    b.toRat = b.unitsAt (min a.exponent b.exponent) * 10 ^ min a.exponent b.exponent :=
  (unitsAt_mul (min_le_right ..)).symm

theorem le_iff : a.le b ↔ a.toRat ≤ b.toRat := by
  rw [toRat_eq_left a b, toRat_eq_right a b, mul_le_mul_iff_left₀ (unit_pos _), Int.cast_le]
  exact decide_eq_true_iff

theorem lt_iff : a.lt b ↔ a.toRat < b.toRat := by
  rw [toRat_eq_left a b, toRat_eq_right a b, mul_lt_mul_iff_left₀ (unit_pos _), Int.cast_lt]
  exact decide_eq_true_iff

theorem equal_iff : a.equal b ↔ a.toRat = b.toRat := by
  rw [toRat_eq_left a b, toRat_eq_right a b, mul_left_inj' (unit_pos _).ne', Int.cast_inj]
  exact decide_eq_true_iff

/-- The units are multiples of one another exactly if the numbers are: the unit cancels. -/
theorem isMultipleOf_iff : a.isMultipleOf b ↔ ∃ m : ℤ, a.toRat = m * b.toRat := by
  have hcancel (m : ℤ) : a.toRat = m * b.toRat ↔
      a.unitsAt (min a.exponent b.exponent) = b.unitsAt (min a.exponent b.exponent) * m := by
    rw [toRat_eq_left a b, toRat_eq_right a b, ← mul_assoc, mul_left_inj' (unit_pos _).ne',
      mul_comm (m : ℚ)]
    norm_cast
  rw [isMultipleOf, decide_eq_true_iff, ← Int.dvd_iff_emod_eq_zero]
  exact exists_congr fun m => (hcancel m).symm

theorem isPositive_iff : d.isPositive ↔ 0 < d.toRat := by
  have hcoefficient : d.isPositive ↔ 0 < d.coefficient := by
    obtain ⟨negative, digits, e⟩ := d
    cases negative <;> simp [isPositive, coefficient, Nat.pos_iff_ne_zero]
  rw [hcoefficient, toRat, mul_pos_iff_of_pos_right (unit_pos _), Int.cast_pos]

end Decimal

namespace Value

/-- The number that a finite number denotes by its decimal text; `none` for other values. -/
def rational? (v : Value) : Option ℚ := v.decimal?.map Decimal.toRat

theorem rational?_int (n : Int) : rational? (.int n) = some (n : ℚ) :=
  congrArg some (Decimal.toRat_ofInt n)

theorem rational?_finite (d : Decimal) : rational? (.real (.finite d)) = some d.toRat := rfl

theorem decimal?_of_rational? {v : Value} {x : ℚ} (h : v.rational? = some x) :
    ∃ d, v.decimal? = some d ∧ d.toRat = x :=
  Option.map_eq_some_iff.mp h

end Value

end Conform
