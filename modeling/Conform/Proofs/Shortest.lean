import Conform.Proofs.Rounding

/-!
The shortest decimal of a floating-point number reads back as that number. Seventeen digits
always do, so the search for fewer of them ends with some that the number covers; and what a
decimal rounds to depends on its magnitude only.
-/
namespace Conform.Binary64

variable {n d : Nat} {b : Binary64}

theorem value_pos (hm : 0 < b.mantissa) : 0 < b.value :=
  mul_pos (Nat.cast_pos.mpr hm) (two_zpow_pos _)

theorem ratio_value (b : Binary64) : (b.ratio.1 : ℚ) / b.ratio.2 = b.value := by
  rw [ratio, scale_ratio (by norm_num), value, Nat.cast_one, div_one, Nat.cast_ofNat]

theorem ratio_pos (b : Binary64) : 0 < b.ratio.2 := scale_pos (by norm_num) (by norm_num) _ _

theorem ratio_decimal (c : Nat) (e : Int) :
    ((scale 10 c 1 e).1 : ℚ) / (scale 10 c 1 e).2 = c * 10 ^ e := by
  rw [scale_ratio (by norm_num), Nat.cast_one, div_one, Nat.cast_ofNat]

theorem ratio_quarter (q : Int) :
    ((scale 2 1 1 (q - 2)).1 : ℚ) / (scale 2 1 1 (q - 2)).2 = 2 ^ q / 4 := by
  rw [scale_ratio (by norm_num), Nat.cast_one, div_one, one_mul, Nat.cast_ofNat,
    zpow_sub₀ (by norm_num)]
  norm_num

/-- A number of quarters of a unit and a decimal, both over the product of their denominators. -/
theorem quarters_cross (q : Int) (k c : Nat) (e : Int) : ∃ m : ℚ, 0 < m ∧
    ((k * (scale 2 1 1 (q - 2)).1 * (scale 10 c 1 e).2 : Nat) : ℚ) = k / 4 * 2 ^ q * m ∧
    (((scale 10 c 1 e).1 * (scale 2 1 1 (q - 2)).2 : Nat) : ℚ) = c * 10 ^ e * m := by
  have hy : (0 : ℚ) < (scale 10 c 1 e).2 := Nat.cast_pos.mpr (scale_pos (by norm_num) one_pos c e)
  have hv : (0 : ℚ) < (scale 2 1 1 (q - 2)).2 :=
    Nat.cast_pos.mpr (scale_pos two_pos one_pos 1 (q - 2))
  -- each side is a ratio, so multiplying by both denominators leaves the products across
  refine ⟨(scale 2 1 1 (q - 2)).2 * (scale 10 c 1 e).2, mul_pos hv hy, ?_, ?_⟩
  · rw [div_mul_eq_mul_div, mul_div_assoc, ← ratio_quarter, ← mul_assoc, mul_assoc (k : ℚ),
      div_mul_cancel₀ _ hv.ne']
    push_cast
    rfl
  · rw [← ratio_decimal, mul_comm (Nat.cast (scale 2 1 1 (q - 2)).2), ← mul_assoc,
      div_mul_cancel₀ _ hy.ne']
    push_cast
    rfl

/-- A number of quarters of a unit compares with a decimal as the products across do. -/
theorem quarters_le_iff (q : Int) (k c : Nat) (e : Int) :
    k * (scale 2 1 1 (q - 2)).1 * (scale 10 c 1 e).2 ≤
        (scale 10 c 1 e).1 * (scale 2 1 1 (q - 2)).2 ↔ (k / 4 * 2 ^ q : ℚ) ≤ c * 10 ^ e := by
  obtain ⟨m, hm, hk, hc⟩ := quarters_cross q k c e
  rw [← Nat.cast_le (α := ℚ), hk, hc, mul_le_mul_iff_left₀ hm]

theorem le_quarters_iff (q : Int) (k c : Nat) (e : Int) :
    (scale 10 c 1 e).1 * (scale 2 1 1 (q - 2)).2 ≤
        k * (scale 2 1 1 (q - 2)).1 * (scale 10 c 1 e).2 ↔ (c * 10 ^ e : ℚ) ≤ k / 4 * 2 ^ q := by
  obtain ⟨m, hm, hk, hc⟩ := quarters_cross q k c e
  rw [← Nat.cast_le (α := ℚ), hk, hc, mul_le_mul_iff_left₀ hm]

theorem low_quarters (hm : 0 < b.mantissa) :
    ((4 * b.mantissa - b.below : Nat) : ℚ) / 4 = b.mantissa - b.below / 4 := by
  have hbelow : b.below ≤ 4 * b.mantissa := by
    unfold below
    split <;> omega
  rw [Nat.cast_sub hbelow]
  push_cast
  ring

theorem high_quarters (b : Binary64) :
    ((4 * b.mantissa + 2 : Nat) : ℚ) / 4 = b.mantissa + 1 / 2 := by
  push_cast
  ring

theorem readsBack_eq (b : Binary64) (c : Nat) (e : Int) : b.readsBack c e =
    if b.mantissa % 2 = 0 then
      decide ((4 * b.mantissa - b.below) * (scale 2 1 1 (b.exponent - 2)).1 *
          (scale 10 c 1 e).2 ≤ (scale 10 c 1 e).1 * (scale 2 1 1 (b.exponent - 2)).2) &&
        decide ((scale 10 c 1 e).1 * (scale 2 1 1 (b.exponent - 2)).2 ≤
          (4 * b.mantissa + 2) * (scale 2 1 1 (b.exponent - 2)).1 * (scale 10 c 1 e).2)
    else
      decide ((4 * b.mantissa - b.below) * (scale 2 1 1 (b.exponent - 2)).1 *
          (scale 10 c 1 e).2 < (scale 10 c 1 e).1 * (scale 2 1 1 (b.exponent - 2)).2) &&
        decide ((scale 10 c 1 e).1 * (scale 2 1 1 (b.exponent - 2)).2 <
          (4 * b.mantissa + 2) * (scale 2 1 1 (b.exponent - 2)).1 * (scale 10 c 1 e).2) := rfl

/-- What is read back as a number is what rounds to it. -/
theorem readsBack_iff (hm : 0 < b.mantissa) (c : Nat) (e : Int) :
    b.readsBack c e ↔ b.Covers (c * 10 ^ e) := by
  rw [readsBack_eq]
  split
  · rename_i heven
    rw [Bool.and_eq_true, decide_eq_true_iff, decide_eq_true_iff, quarters_le_iff, le_quarters_iff,
      low_quarters hm, high_quarters, Covers]
    constructor
    · intro h
      exact ⟨h.1, h.2, fun hodd => by omega⟩
    · intro h
      exact ⟨h.1, h.2.1⟩
  · rename_i hodd
    rw [Bool.and_eq_true, decide_eq_true_iff, decide_eq_true_iff, ← not_le, ← not_le,
      quarters_le_iff, le_quarters_iff, low_quarters hm, high_quarters, Covers, not_le, not_le]
    constructor
    · intro h
      exact ⟨h.1.le, h.2.le, fun _ => h⟩
    · intro h
      exact h.2.2 (by omega)

/-- Powers of ten against powers of two, by the fractions 59 / 196 and 28 / 93 on both sides of
the logarithm. -/
theorem ten_le_two {k j : Int} (h : k ≤ j * 30103 / 100000 - 1) (hl : -1100 ≤ j) (hu : j ≤ 1100) :
    (10 : ℚ) ^ k ≤ 2 ^ j := by
  have hten : (0 : ℚ) ≤ 10 ^ k := by positivity
  rcases le_total 0 j with hj | hj
  · obtain ⟨i, rfl⟩ := Int.eq_ofNat_of_zero_le hj
    rw [← pow_le_pow_iff_left₀ hten (two_zpow_pos _).le (n := 196) (by norm_num)]
    calc ((10 : ℚ) ^ k) ^ 196 = 10 ^ (k * 196) := by
          rw [zpow_mul]
          norm_cast
      _ ≤ 10 ^ (59 * i : Int) := zpow_le_zpow_right₀ (by norm_num) (by omega)
      _ = (10 ^ 59) ^ i := by
        rw [zpow_mul]
        norm_cast
      _ ≤ (2 ^ 196) ^ i := by
        gcongr ?_ ^ i
        norm_num
      _ = ((2 : ℚ) ^ (i : Int)) ^ 196 := by
        rw [zpow_natCast, ← pow_mul, ← pow_mul, mul_comm]
  · obtain ⟨i, hi⟩ := Int.eq_ofNat_of_zero_le (show 0 ≤ -j by omega)
    obtain rfl : j = -(i : Int) := by omega
    rw [← pow_le_pow_iff_left₀ hten (two_zpow_pos _).le (n := 93) (by norm_num)]
    calc ((10 : ℚ) ^ k) ^ 93 = 10 ^ (k * 93) := by
          rw [zpow_mul]
          norm_cast
      _ ≤ 10 ^ (-(28 * i) : Int) := zpow_le_zpow_right₀ (by norm_num) (by omega)
      _ = ((10 ^ 28) ^ i)⁻¹ := by
        rw [zpow_neg, zpow_mul]
        norm_cast
      _ ≤ ((2 ^ 93) ^ i)⁻¹ := by
        gcongr ?_⁻¹
        gcongr ?_ ^ i
        norm_num
      _ = ((2 : ℚ) ^ (-(i : Int))) ^ 93 := by
        rw [zpow_neg, zpow_natCast, inv_pow, ← pow_mul, ← pow_mul, mul_comm]

/-- The power of ten that is taken for the leading digit is not beyond the fraction. -/
theorem leadingDigit_le (hn : 0 < n) (hd : 0 < d)
    (hl : -1100 ≤ (n.log2 : Int) - d.log2 - 1) (hu : (n.log2 : Int) - d.log2 - 1 ≤ 1100) :
    (10 : ℚ) ^ leadingDigit n d ≤ n / d := by
  have hreach (k : Int) := scale_le_iff (by norm_num : 0 < 10) hd n k
  unfold leadingDigit
  simp only [decide_eq_true_eq, hreach]
  split
  · rename_i h
    exact h
  · split
    · rename_i h
      exact h
    · split
      · rename_i h
        exact h
      · exact (ten_le_two le_rfl hl hu).trans (ratio_log2 hn hd).1

/-- The logarithms of the exact fraction of a number are within reach of the table above. -/
theorem Legal.log2_ratio (hb : b.Legal) :
    -1100 ≤ (b.ratio.1.log2 : Int) - b.ratio.2.log2 - 1 ∧
      (b.ratio.1.log2 : Int) - b.ratio.2.log2 - 1 ≤ 1100 := by
  obtain ⟨m, q⟩ := b
  obtain ⟨hlt, hleast, hmost, -⟩ := hb
  simp only [minExponent, maxExponent] at hlt hleast hmost
  have hlog {x k : Nat} (h : x < 2 ^ (k + 1)) : x.log2 ≤ k := by
    rcases Nat.eq_zero_or_pos x with rfl | hx
    · simp
    · exact Nat.lt_succ_iff.mp ((Nat.log2_lt hx.ne').mpr h)
  have hm : m < 2 ^ 53 := hlt
  unfold ratio scale
  split
  · rename_i hq
    obtain ⟨k, rfl⟩ := Int.eq_ofNat_of_zero_le hq
    have hsmall : m * 2 ^ k < 2 ^ (1023 + 1) := by
      calc m * 2 ^ k < 2 ^ 53 * 2 ^ k := by gcongr
        _ ≤ 2 ^ 53 * 2 ^ 971 := by gcongr <;> omega
        _ = 2 ^ (1023 + 1) := by rw [← pow_add]
    have hx := hlog hsmall
    have hy : Nat.log2 1 = 0 := by decide
    simp only [Int.toNat_natCast, Nat.pow_eq]
    omega
  · rename_i hq
    have hq' : ¬ 0 ≤ q := hq
    obtain ⟨k, hk⟩ := Int.eq_ofNat_of_zero_le (show 0 ≤ -q by omega)
    have hx : m.log2 ≤ 52 := hlog hm
    have hy : (1 * 2 ^ k).log2 = k := by rw [one_mul, Nat.log2_two_pow]
    simp only [hk, Int.toNat_natCast, Nat.pow_eq]
    omega

theorem Legal.ratio_fst_pos (hm : 0 < b.mantissa) : 0 < b.ratio.1 := by
  have hpos : (0 : ℚ) < b.ratio.1 / b.ratio.2 := by
    rw [ratio_value]
    exact value_pos hm
  by_contra h
  rw [Nat.eq_zero_of_not_pos h, Nat.cast_zero, zero_div] at hpos
  exact lt_irrefl _ hpos

/-- A decimal of seventeen digits that is nearest to a number rounds to it: half a unit of the
seventeenth digit is less than what lies between the number and its neighbours. -/
theorem covers_seventeen (hb : b.Legal) {lead : Int}
    (hlead : (10 : ℚ) ^ lead ≤ b.value) {c : Nat}
    (hc : IsNearest c (b.value * 10 ^ (-(lead - 16)))) : b.Covers (c * 10 ^ (lead - 16)) := by
  have hunit : (0 : ℚ) < 10 ^ (lead - 16) := by positivity
  have hsmall : (10 : ℚ) ^ (lead - 16) * 10 ^ 16 ≤ b.value := by
    rw [zpow_sub₀ (by norm_num)]
    norm_num
    exact hlead
  have hsplit : b.value * 10 ^ (-(lead - 16)) = b.value / 10 ^ (lead - 16) := by
    rw [zpow_neg, div_eq_mul_inv]
  rw [hsplit] at hc
  have hlow := (le_div_iff₀ hunit).mp hc.1
  have hhigh := (div_le_iff₀ hunit).mp hc.2.1
  have hmantissa := hb.mantissa_lt
  have hpow := two_zpow_pos b.exponent
  have hvalue : b.value = b.mantissa * 2 ^ b.exponent := rfl
  rw [hvalue] at hsmall hlow hhigh
  -- both bounds in units of the last place of the number
  have hhalf : (10 : ℚ) ^ (lead - 16) < 2 ^ b.exponent := by nlinarith
  have hbelow : (10 : ℚ) ^ (lead - 16) / 2 < b.below / 4 * 2 ^ b.exponent := by
    unfold below
    split
    · rename_i h
      rw [h.1, leadingUnit_eq] at hsmall
      norm_num at hsmall ⊢
      linarith
    · norm_num
      linarith
  have hstrict : ((b.mantissa : ℚ) - b.below / 4) * 2 ^ b.exponent < c * 10 ^ (lead - 16) ∧
      (c : ℚ) * 10 ^ (lead - 16) < (b.mantissa + 1 / 2) * 2 ^ b.exponent :=
    ⟨by linarith, by linarith⟩
  exact ⟨hstrict.1.le, hstrict.2.le, fun _ => hstrict⟩

theorem readsBack_of_shortestWith {lead : Int} {k c : Nat} {e : Int}
    (h : shortestWith b lead k = some (c, e)) : b.readsBack c e := by
  unfold shortestWith at h
  simp only at h
  split at h
  · obtain ⟨rfl, rfl⟩ := Prod.mk.inj (Option.some.inj h)
    assumption
  · split at h
    · obtain ⟨rfl, rfl⟩ := Prod.mk.inj (Option.some.inj h)
      assumption
    · split at h
      · obtain ⟨rfl, rfl⟩ := Prod.mk.inj (Option.some.inj h)
        assumption
      · cases h

theorem exists_shortestWith_seventeen (hb : b.Legal) (hm : 0 < b.mantissa) {lead : Int}
    (hlead : (10 : ℚ) ^ lead ≤ b.value) : ∃ p, shortestWith b lead 17 = some p := by
  have he : lead - (17 : Nat) + 1 = lead - 16 := by omega
  have hnear := isNearest_divHalfEven (scale 10 b.ratio.1 b.ratio.2 (-(lead - 16))).1
    (scale_pos (by norm_num : 0 < 10) b.ratio_pos b.ratio.1 (-(lead - 16)))
  rw [scale_ratio (by norm_num), ratio_value, Nat.cast_ofNat] at hnear
  have hback := (readsBack_iff hm _ _).mpr (covers_seventeen hb hlead hnear)
  simp only [shortestWith, he, hback, ↓reduceIte]
  exact ⟨_, rfl⟩

/-- The search for digits ends with some that read back. -/
theorem readsBack_shortestFrom {lead : Int} (fuel k : Nat)
    (h : ∃ p, shortestWith b lead (k + fuel) = some p) :
    b.readsBack (shortestFrom b lead fuel k).1 (shortestFrom b lead fuel k).2 := by
  induction fuel generalizing k with
  | zero =>
    obtain ⟨⟨c, e⟩, hp⟩ := h
    rw [Nat.add_zero] at hp
    rw [shortestFrom, hp]
    exact readsBack_of_shortestWith hp
  | succ fuel ih =>
    rw [shortestFrom]
    cases hp : shortestWith b lead k with
    | some p => exact readsBack_of_shortestWith hp
    | none => exact ih (k + 1) (by rwa [Nat.add_right_comm, Nat.add_assoc])

end Conform.Binary64

namespace Conform.Decimal

variable {d : Decimal} {n : Nat}

/-- The number that a decimal denotes, without its sign. -/
def magnitude (d : Decimal) : ℚ := d.digits * 10 ^ d.exponent

theorem trimZeros_spec (fuel n : Nat) (e : Int) :
    ((trimZeros fuel n e).1 * 10 ^ (trimZeros fuel n e).2 : ℚ) = n * 10 ^ e := by
  induction fuel generalizing n e with
  | zero => rfl
  | succ fuel ih =>
    rw [trimZeros]
    split
    · rename_i h
      have hn : (n : ℚ) = (n / 10 : Nat) * 10 := by
        have hnat : n = n / 10 * 10 := by omega
        exact_mod_cast hnat
      rw [ih, zpow_add₀ (by norm_num), zpow_one, hn]
      ring
    · rfl

theorem magnitude_normalize (d : Decimal) : d.normalize.magnitude = d.magnitude := by
  unfold normalize
  split
  · rename_i h
    simp [magnitude, h]
  · exact trimZeros_spec _ _ _

theorem digits_pos_iff : 0 < d.digits ↔ 0 < d.magnitude := by
  rw [magnitude, mul_pos_iff_of_pos_right (by positivity), Nat.cast_pos]

/-- How many digits stand before the point, or how many zeros after it, tells the magnitude. -/
theorem magnitude_bounds (hd : 0 < d.digits) :
    (10 : ℚ) ^ (((Nat.toDigits 10 d.digits).length : Int) + d.exponent - 1) ≤ d.magnitude ∧
      d.magnitude < 10 ^ (((Nat.toDigits 10 d.digits).length : Int) + d.exponent) := by
  have hunit : (0 : ℚ) < 10 ^ d.exponent := by positivity
  obtain ⟨k, hk⟩ : ∃ k, (Nat.toDigits 10 d.digits).length = k + 1 :=
    Nat.exists_eq_succ_of_ne_zero Nat.length_toDigits_pos.ne'
  have hupper : d.digits < 10 ^ (k + 1) :=
    (Nat.length_toDigits_le_iff (by norm_num) (by omega)).mp hk.le
  have hlower : 10 ^ k ≤ d.digits := by
    rcases Nat.eq_zero_or_pos k with rfl | hpos
    · exact hd
    · by_contra hlt
      have := (Nat.length_toDigits_le_iff (b := 10) (by norm_num) hpos).mpr (not_le.mp hlt)
      omega
  rw [hk, magnitude]
  constructor
  · have hsplit : ((k + 1 : Nat) : Int) + d.exponent - 1 = k + d.exponent := by omega
    rw [hsplit, zpow_add₀ (by norm_num), zpow_natCast]
    gcongr
    exact_mod_cast hlower
  · rw [zpow_add₀ (by norm_num), zpow_natCast]
    gcongr
    exact_mod_cast hupper

/-- Decimals of one magnitude have the point in one place. -/
theorem places_congr {d d' : Decimal} (hd : 0 < d.digits) (h : d.magnitude = d'.magnitude) :
    ((Nat.toDigits 10 d.digits).length : Int) + d.exponent =
      (Nat.toDigits 10 d'.digits).length + d'.exponent := by
  have hd' : 0 < d'.digits := by rwa [digits_pos_iff, ← h, ← digits_pos_iff]
  obtain ⟨hl, hu⟩ := magnitude_bounds hd
  obtain ⟨hl', hu'⟩ := magnitude_bounds hd'
  rw [h] at hl hu
  have hlt := (zpow_lt_zpow_iff_right₀ (by norm_num)).mp (hl.trans_lt hu')
  have hlt' := (zpow_lt_zpow_iff_right₀ (by norm_num)).mp (hl'.trans_lt hu)
  omega

end Conform.Decimal

namespace Conform.Binary64

variable {b : Binary64} {d d' : Decimal} {t : ℚ}

theorem scale_decimal (d : Decimal) : ((scale 10 d.digits 1 d.exponent).1 : ℚ) /
    (scale 10 d.digits 1 d.exponent).2 = d.magnitude := ratio_decimal d.digits d.exponent

theorem scale_decimal_pos (d : Decimal) : 0 < (scale 10 d.digits 1 d.exponent).2 :=
  scale_pos (by norm_num) (by norm_num) _ _

theorem scale_decimal_fst_pos (hd : 0 < d.digits) : 0 < (scale 10 d.digits 1 d.exponent).1 := by
  by_contra h
  have hvalue := scale_decimal d
  rw [Nat.eq_zero_of_not_pos h, Nat.cast_zero, zero_div] at hvalue
  exact absurd (Decimal.digits_pos_iff.mp hd) (hvalue ▸ lt_irrefl _)

/-- Decimals of one magnitude round to one number. -/
theorem ofDecimal_congr (h : d.magnitude = d'.magnitude) : ofDecimal d = ofDecimal d' := by
  rcases Nat.eq_zero_or_pos d.digits with hd | hd
  · have hd' : d'.digits = 0 := by
      have hzero : ¬ 0 < d'.digits := by
        rw [Decimal.digits_pos_iff, ← h, ← Decimal.digits_pos_iff, hd]
        exact lt_irrefl 0
      omega
    rw [ofDecimal, ofDecimal, if_pos (.inl hd), if_pos (.inl hd')]
  · have hd' : 0 < d'.digits := by rwa [Decimal.digits_pos_iff, ← h, ← Decimal.digits_pos_iff]
    have hratio := (scale_decimal d).trans (h.trans (scale_decimal d').symm)
    simp only [ofDecimal, hd.ne', hd'.ne', Decimal.places_congr hd h,
      nearest_congr (scale_decimal_fst_pos hd) (scale_decimal_pos d) (scale_decimal_fst_pos hd')
        (scale_decimal_pos d') hratio]

theorem ofDecimal_legal (h : ofDecimal d = some b) : b.Legal := by
  unfold ofDecimal at h
  simp only at h
  split at h
  · obtain rfl := Option.some.inj h
    exact ⟨by decide, le_rfl, by decide, .inr rfl⟩
  · split at h
    · cases h
    · exact nearest_legal (scale_decimal_pos d) h

/-- What a number covers is not less than half of the least number. -/
theorem Covers.least (hb : b.Legal) (hm : 0 < b.mantissa) (h : b.Covers t) :
    (2 : ℚ) ^ (-1075 : Int) ≤ t := by
  have hunit := two_zpow_pos b.exponent
  have hbelow := b.below_le
  have hone : (1 : ℚ) ≤ b.mantissa := by exact_mod_cast hm
  have hleast : (-1075 : Int) ≤ b.exponent - 1 := by
    have hexponent := hb.least
    simp only [minExponent] at hexponent
    omega
  calc (2 : ℚ) ^ (-1075 : Int) ≤ 2 ^ (b.exponent - 1) :=
        zpow_le_zpow_right₀ (by norm_num) hleast
    _ = 1 / 2 * 2 ^ b.exponent := by
      rw [zpow_sub₀ (by norm_num), zpow_one]
      ring
    _ ≤ (b.mantissa - b.below / 4) * 2 ^ b.exponent := by
      gcongr
      linarith
    _ ≤ t := h.1

theorem Covers.most (hb : b.Legal) (h : b.Covers t) : t < 2 ^ (1024 : Int) := by
  have hmost : b.exponent + 53 ≤ 1024 := by
    have hexponent := hb.most
    simp only [maxExponent] at hexponent
    omega
  exact (h.lt_zpow hb).trans_le (zpow_le_zpow_right₀ (by norm_num) hmost)

/-- What a number covers is within the range outside of which decimals are not looked at. -/
theorem Covers.places (hb : b.Legal) (hm : 0 < b.mantissa) (h : b.Covers d.magnitude)
    (hd : 0 < d.digits) :
    -330 ≤ ((Nat.toDigits 10 d.digits).length : Int) + d.exponent ∧
      ((Nat.toDigits 10 d.digits).length : Int) + d.exponent ≤ 310 := by
  obtain ⟨hl, hu⟩ := Decimal.magnitude_bounds hd
  constructor
  · by_contra hlt
    have hpow : (10 : ℚ) ^ (((Nat.toDigits 10 d.digits).length : Int) + d.exponent) ≤
        2 ^ (-1075 : Int) := ten_le_two (by omega) (by norm_num) (by norm_num)
    exact absurd (hu.trans_le (hpow.trans (h.least hb hm))) (lt_irrefl _)
  · by_contra hlt
    have hpow : (10 : ℚ) ^ (310 : Int) ≤
        10 ^ (((Nat.toDigits 10 d.digits).length : Int) + d.exponent - 1) :=
      zpow_le_zpow_right₀ (by norm_num) (by omega)
    have hsep : (10 : ℚ) ^ (-310 : Int) ≤ 2 ^ (-1024 : Int) :=
      ten_le_two (by norm_num) (by norm_num) (by norm_num)
    rw [zpow_neg, zpow_neg, inv_le_inv₀ (by positivity) (by positivity)] at hsep
    exact absurd ((hpow.trans hl).trans_lt ((h.most hb).trans_le hsep)) (lt_irrefl _)

/-- A decimal that a number covers rounds to it. -/
theorem ofDecimal_eq (hb : b.Legal) (hm : 0 < b.mantissa) (h : b.Covers d.magnitude) :
    ofDecimal d = some b := by
  have hd : 0 < d.digits := by
    rw [Decimal.digits_pos_iff]
    exact (two_zpow_pos _).trans_le (h.least hb hm)
  obtain ⟨hlow, hhigh⟩ := h.places hb hm hd
  simp only [ofDecimal, hd.ne', false_or, if_neg (not_lt.mpr hlow), if_neg (not_lt.mpr hhigh)]
  refine nearest_eq hb (scale_decimal_fst_pos hd) (scale_decimal_pos d) ?_
  rw [scale_decimal]
  exact h

/-- The shortest decimal of a number reads back as that number. -/
theorem ofDecimal_shortest (hb : b.Legal) (negative : Bool) :
    ofDecimal (b.shortest negative) = some b := by
  rcases Nat.eq_zero_or_pos b.mantissa with hm | hm
  · obtain ⟨m, q⟩ := b
    obtain rfl : m = 0 := hm
    have hq : q = minExponent := hb.leading.resolve_left (by simp [leadingUnit])
    rw [hq]
    rfl
  · obtain ⟨hl, hu⟩ := hb.log2_ratio
    have hlead := leadingDigit_le (Legal.ratio_fst_pos hm) b.ratio_pos hl hu
    rw [ratio_value] at hlead
    have hback := readsBack_shortestFrom 16 1 (exists_shortestWith_seventeen hb hm hlead)
    rw [shortest, if_neg hm.ne']
    refine ofDecimal_eq hb hm ?_
    rw [Decimal.magnitude_normalize]
    exact (readsBack_iff hm _ _).mp hback

end Conform.Binary64

namespace Conform.Real

/-- Whether a value is one that floating-point arithmetic knows: not every decimal is. -/
def IsFloat : Real → Prop
  | .finite s => ∃ d, ofDecimal d = .finite s
  | _ => True

/-- A finite value is what its own decimal rounds to. -/
theorem IsFloat.ofDecimal_eq {s : Decimal} (h : (Real.finite s).IsFloat) :
    ofDecimal s = .finite s := by
  obtain ⟨d, hd⟩ := h
  unfold ofDecimal at hd
  split at hd
  · cases hd
  · rename_i b hb
    obtain rfl := Real.finite.inj hd
    have hnegative : (b.shortest d.negative).negative = d.negative := by
      unfold Binary64.shortest
      split
      · rfl
      · simp only [Decimal.normalize]
        split <;> rfl
    rw [ofDecimal, Binary64.ofDecimal_shortest (Binary64.ofDecimal_legal hb), hnegative]

end Conform.Real
