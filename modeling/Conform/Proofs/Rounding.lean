import Conform.Number.Real
import Mathlib.Algebra.Order.Field.Power
import Mathlib.Algebra.Order.Field.Rat
import Mathlib.Tactic.Linarith
import Mathlib.Tactic.Positivity
import Mathlib.Tactic.Ring

/-!
Rounding to binary floating-point numbers, said of the rationals. Each number covers what lies
nearer to it than to its neighbours, the middles going to the even mantissa, and what it covers
rounds to it. So only the value of a fraction matters.
-/
namespace Conform.Binary64

variable {base n d n' d' x y m : Nat} {e : Int} {b : Binary64} {t : ℚ}

theorem scale_pos (hb : 0 < base) (hd : 0 < d) (n : Nat) (e : Int) :
    0 < (scale base n d e).2 := by
  unfold scale
  split
  · exact hd
  · exact Nat.mul_pos hd (Nat.pow_pos hb)

theorem scale_ratio (hb : 0 < base) (n d : Nat) (e : Int) :
    ((scale base n d e).1 : ℚ) / (scale base n d e).2 = n / d * (base : ℚ) ^ e := by
  have hne : (base : ℚ) ≠ 0 := Nat.cast_ne_zero.mpr hb.ne'
  unfold scale
  split
  · rename_i he
    obtain ⟨k, rfl⟩ := Int.eq_ofNat_of_zero_le he
    have hcast : ((n * Nat.pow base (k : Int).toNat : Nat) : ℚ) = n * (base : ℚ) ^ k := by
      rw [Int.toNat_natCast]
      exact_mod_cast rfl
    rw [hcast, zpow_natCast]
    ring
  · rename_i he
    obtain ⟨k, hk⟩ := Int.eq_ofNat_of_zero_le (show 0 ≤ -e by omega)
    obtain rfl : e = -(k : Int) := by omega
    have hcast : ((d * Nat.pow base (-(-(k : Int))).toNat : Nat) : ℚ) = d * (base : ℚ) ^ k := by
      rw [neg_neg, Int.toNat_natCast]
      exact_mod_cast rfl
    rw [hcast, zpow_neg, zpow_natCast, div_mul_eq_div_div, div_eq_mul_inv]

/-- Whether a scaled fraction reaches one is whether the fraction reaches a power of the base. -/
theorem scale_le_iff (hb : 0 < base) (hd : 0 < d) (n : Nat) (e : Int) :
    (scale base n d (-e)).2 ≤ (scale base n d (-e)).1 ↔ (base : ℚ) ^ e ≤ n / d := by
  have hpos : (0 : ℚ) < (scale base n d (-e)).2 := Nat.cast_pos.mpr (scale_pos hb hd n (-e))
  have hunit : (0 : ℚ) < (base : ℚ) ^ e := zpow_pos (Nat.cast_pos.mpr hb) e
  rw [← Nat.cast_le (α := ℚ), ← one_le_div hpos, scale_ratio hb, zpow_neg, ← div_eq_mul_inv,
    one_le_div hunit]

theorem log2_bounds (hn : 0 < n) :
    (2 : ℚ) ^ (n.log2 : Int) ≤ n ∧ (n : ℚ) < 2 ^ ((n.log2 : Int) + 1) := by
  have hle : 2 ^ n.log2 ≤ n := Nat.log2_self_le hn.ne'
  have hlt : n < 2 ^ (n.log2 + 1) := Nat.lt_log2_self
  constructor
  · rw [zpow_natCast]
    exact_mod_cast hle
  · rw [← Nat.cast_succ, zpow_natCast]
    exact_mod_cast hlt

/-- The bits of numerator and denominator tell a fraction up to a factor of four. -/
theorem ratio_log2 (hn : 0 < n) (hd : 0 < d) :
    (2 : ℚ) ^ ((n.log2 : Int) - d.log2 - 1) ≤ n / d ∧
      (n / d : ℚ) < 2 ^ ((n.log2 : Int) - d.log2 + 1) := by
  obtain ⟨hnl, hnu⟩ := log2_bounds hn
  obtain ⟨hdl, hdu⟩ := log2_bounds hd
  have hd' : (0 : ℚ) < d := Nat.cast_pos.mpr hd
  constructor
  · rw [le_div_iff₀ hd']
    calc (2 : ℚ) ^ ((n.log2 : Int) - d.log2 - 1) * d
        ≤ 2 ^ ((n.log2 : Int) - d.log2 - 1) * 2 ^ ((d.log2 : Int) + 1) := by gcongr
      _ = 2 ^ (n.log2 : Int) := by
        rw [← zpow_add₀ (by norm_num)]
        congr 1
        ring
      _ ≤ n := hnl
  · rw [div_lt_iff₀ hd']
    calc (n : ℚ) < 2 ^ ((n.log2 : Int) + 1) := hnu
      _ = 2 ^ ((n.log2 : Int) - d.log2 + 1) * 2 ^ (d.log2 : Int) := by
        rw [← zpow_add₀ (by norm_num)]
        congr 1
        ring
      _ ≤ 2 ^ ((n.log2 : Int) - d.log2 + 1) * d := by gcongr

/-- The leading bit of a positive fraction is the power of two just below it. -/
theorem leadingBit_spec (hn : 0 < n) (hd : 0 < d) :
    (2 : ℚ) ^ leadingBit n d ≤ n / d ∧ (n / d : ℚ) < 2 ^ (leadingBit n d + 1) := by
  obtain ⟨hlow, hhigh⟩ := ratio_log2 hn hd
  have hreach := scale_le_iff (by norm_num : 0 < 2) hd n ((n.log2 : Int) - d.log2)
  unfold leadingBit
  simp only [hreach]
  split
  · rename_i h
    exact ⟨h, hhigh⟩
  · rename_i h
    rw [sub_add_cancel]
    exact ⟨hlow, not_le.mp h⟩

/-- One power of two only lies just below a number. -/
theorem leadingBit_unique {b b' : Int} (h : (2 : ℚ) ^ b ≤ t) (hb : t < 2 ^ (b + 1))
    (h' : (2 : ℚ) ^ b' ≤ t) (hb' : t < 2 ^ (b' + 1)) : b = b' := by
  have hlt : b < b' + 1 := (zpow_lt_zpow_iff_right₀ (by norm_num)).mp (h.trans_lt hb')
  have hlt' : b' < b + 1 := (zpow_lt_zpow_iff_right₀ (by norm_num)).mp (h'.trans_lt hb)
  omega

/-- Whether `m` is the integer nearest to a number, a tie going to the even one. -/
def IsNearest (m : Nat) (t : ℚ) : Prop :=
  m - 1 / 2 ≤ t ∧ t ≤ m + 1 / 2 ∧ (m % 2 = 1 → (m - 1 / 2 : ℚ) < t ∧ t < m + 1 / 2)

theorem IsNearest.unique {m m' : Nat} (h : IsNearest m t) (h' : IsNearest m' t) : m = m' := by
  have hside {m m' : Nat} (h : IsNearest m t) (h' : IsNearest m' t) : m' ≤ m := by
    by_contra hlt
    -- between neighbours there is the middle only, and one of the two is odd
    have hle : ((m + 1 : Nat) : ℚ) ≤ m' := Nat.cast_le.mpr (by omega)
    push_cast at hle
    have hm : (m' : ℚ) = m + 1 := le_antisymm (by linarith [h.2.1, h'.1]) hle
    have hodd : m % 2 = 1 ∨ m' % 2 = 1 := by
      have hsucc : m' = m + 1 := by exact_mod_cast hm
      omega
    rcases hodd with hodd | hodd
    · linarith [(h.2.2 hodd).2, h'.1]
    · linarith [(h'.2.2 hodd).1, h.2.1]
  exact le_antisymm (hside h' h) (hside h h')

theorem isNearest_divHalfEven (x : Nat) (hy : 0 < y) : IsNearest (divHalfEven x y) (x / y) := by
  have hy' : (0 : ℚ) < y := Nat.cast_pos.mpr hy
  have hx : (x : ℚ) = y * (x / y : Nat) + (x % y : Nat) := by
    exact_mod_cast (Nat.div_add_mod x y).symm
  have hr : x % y < y := Nat.mod_lt x hy
  have hr' : ((x % y : Nat) : ℚ) < y := Nat.cast_lt.mpr hr
  have hr0 : (0 : ℚ) ≤ (x % y : Nat) := Nat.cast_nonneg _
  unfold IsNearest divHalfEven
  simp only [le_div_iff₀ hy', div_le_iff₀ hy', lt_div_iff₀ hy', div_lt_iff₀ hy']
  rw [hx]
  generalize x / y = q at *
  generalize x % y = r at *
  split
  · rename_i h
    have h' : (y : ℚ) < 2 * r := by exact_mod_cast h
    push_cast
    refine ⟨by linarith, by linarith, fun _ => ⟨by linarith, by linarith⟩⟩
  · rename_i h
    split
    · rename_i htie
      have htie' : (2 : ℚ) * r = y := by exact_mod_cast htie
      rcases Nat.mod_two_eq_zero_or_one q with hq | hq
      · rw [hq, add_zero]
        refine ⟨by linarith, by linarith, fun hodd => by omega⟩
      · rw [hq]
        push_cast
        refine ⟨by linarith, by linarith, fun hodd => by omega⟩
    · rename_i hne
      have h' : (2 : ℚ) * r < y := by
        have hlt : 2 * r < y := by omega
        exact_mod_cast hlt
      refine ⟨by linarith, by linarith, fun _ => ⟨by linarith, by linarith⟩⟩

theorem divHalfEven_eq (hy : 0 < y) (h : IsNearest m (x / y)) : divHalfEven x y = m :=
  (isNearest_divHalfEven x hy).unique h

/-- Rounding asks for the value of a fraction only. -/
theorem nearest_congr (hn : 0 < n) (hd : 0 < d) (hn' : 0 < n') (hd' : 0 < d')
    (h : (n / d : ℚ) = n' / d') : nearest n d = nearest n' d' := by
  have hbit : leadingBit n d = leadingBit n' d' := by
    obtain ⟨hl, hu⟩ := leadingBit_spec hn hd
    obtain ⟨hl', hu'⟩ := leadingBit_spec hn' hd'
    rw [← h] at hl' hu'
    exact leadingBit_unique hl hu hl' hu'
  have hround (q : Int) : divHalfEven (scale 2 n d q).1 (scale 2 n d q).2 =
      divHalfEven (scale 2 n' d' q).1 (scale 2 n' d' q).2 := by
    refine divHalfEven_eq (scale_pos (by norm_num) hd n q) ?_
    rw [scale_ratio (by norm_num), h, ← scale_ratio (by norm_num)]
    exact isNearest_divHalfEven _ (scale_pos (by norm_num) hd' n' q)
  simp only [nearest, if_neg hn.ne', if_neg hn'.ne', hbit, hround]

/-- The form in which numbers are held: the leading bit is set but for the least exponent. -/
structure Legal (b : Binary64) : Prop where
  lt : b.mantissa < 2 * leadingUnit
  least : minExponent ≤ b.exponent
  most : b.exponent ≤ maxExponent
  leading : leadingUnit ≤ b.mantissa ∨ b.exponent = minExponent

def value (b : Binary64) : ℚ := b.mantissa * 2 ^ b.exponent

/-- How far the numbers that round to `b` reach below it, in quarters of a unit of its last place:
the next number below a power of two is only half as far away. -/
def below (b : Binary64) : Nat :=
  if b.mantissa = leadingUnit ∧ minExponent < b.exponent then 1 else 2

/-- Whether a number lies so near to `b` that it rounds to it. -/
def Covers (b : Binary64) (t : ℚ) : Prop :=
  (b.mantissa - b.below / 4) * 2 ^ b.exponent ≤ t ∧ t ≤ (b.mantissa + 1 / 2) * 2 ^ b.exponent ∧
    (b.mantissa % 2 = 1 →
      (b.mantissa - b.below / 4) * 2 ^ b.exponent < t ∧ t < (b.mantissa + 1 / 2) * 2 ^ b.exponent)

theorem below_le (b : Binary64) : (b.below : ℚ) / 4 ≤ 1 / 2 := by
  unfold below
  split <;> norm_num

theorem two_zpow_pos (e : Int) : (0 : ℚ) < 2 ^ e := by positivity

/-- In units of the last place, what rounds to a number is nearest to its mantissa. -/
theorem Covers.isNearest (h : b.Covers t) : IsNearest b.mantissa (t / 2 ^ b.exponent) := by
  have hunit := two_zpow_pos b.exponent
  have hbelow := b.below_le
  refine ⟨?_, (div_le_iff₀ hunit).mpr h.2.1,
    fun hodd => ⟨?_, (div_lt_iff₀ hunit).mpr (h.2.2 hodd).2⟩⟩
  · rw [le_div_iff₀ hunit]
    refine le_trans ?_ h.1
    gcongr
  · rw [lt_div_iff₀ hunit]
    refine lt_of_le_of_lt ?_ (h.2.2 hodd).1
    gcongr

theorem zpow_split (q : Int) (k : Nat) [k.AtLeastTwo] :
    (2 : ℚ) ^ (q + OfNat.ofNat k) = 2 ^ (OfNat.ofNat k : Nat) * 2 ^ q := by
  rw [zpow_add₀ (by norm_num), zpow_ofNat, mul_comm]

theorem leadingUnit_eq : (leadingUnit : ℚ) = 2 ^ 52 := by norm_num [leadingUnit]

theorem Legal.mantissa_lt (hb : b.Legal) : (b.mantissa : ℚ) + 1 ≤ 2 ^ 53 := by
  have hnat : b.mantissa + 1 ≤ 2 ^ 53 := hb.lt
  exact_mod_cast hnat

/-- A number covers nothing beyond the 53 bits of its mantissa. -/
theorem Covers.lt_zpow (hb : b.Legal) (h : b.Covers t) : t < 2 ^ (b.exponent + 53) := by
  have hmantissa := hb.mantissa_lt
  have hunit := two_zpow_pos b.exponent
  rw [zpow_split b.exponent 53]
  refine lt_of_le_of_lt h.2.1 ?_
  gcongr
  linarith

/-- Only a power of two covers what has its leading bit one place lower. -/
theorem Covers.eq_leadingUnit (hb : b.Legal) (h : b.Covers t)
    (hlow : t < 2 ^ (b.exponent + 52)) (hmin : b.exponent ≠ minExponent) :
    b.mantissa = leadingUnit := by
  have hge : leadingUnit ≤ b.mantissa := hb.leading.resolve_right hmin
  by_contra hne
  have hnat : leadingUnit + 1 ≤ b.mantissa := by omega
  have hrat : (leadingUnit : ℚ) + 1 ≤ b.mantissa := by exact_mod_cast hnat
  have hbelow := b.below_le
  have hreach : (2 : ℚ) ^ 52 * 2 ^ b.exponent ≤ t := by
    rw [leadingUnit_eq] at hrat
    refine le_trans ?_ h.1
    gcongr
    linarith
  rw [zpow_split b.exponent 52] at hlow
  linarith

/-- In units of the last place, a fraction is rounded to the integer that is nearest. -/
theorem isNearest_scale (hd : 0 < d) (q : Int) :
    IsNearest (divHalfEven (scale 2 n d (-q)).1 (scale 2 n d (-q)).2) (n / d / 2 ^ q) := by
  have hround := isNearest_divHalfEven (scale 2 n d (-q)).1 (scale_pos two_pos hd n (-q))
  rwa [scale_ratio (by norm_num), Nat.cast_ofNat, zpow_neg, ← div_eq_mul_inv] at hround

/-- What is rounded, once exponent and mantissa are known. -/
theorem nearest_eq_of_exponent (hn : 0 < n) {q : Int}
    (hq : max (leadingBit n d - 52) minExponent = q)
    (hm : divHalfEven (scale 2 n d (-q)).1 (scale 2 n d (-q)).2 = m) : nearest n d =
      if m = 2 * leadingUnit then
        if maxExponent < q + 1 then none else some ⟨leadingUnit, q + 1⟩
      else if maxExponent < q then none else some ⟨m, q⟩ := by
  simp only [nearest, if_neg hn.ne', hq, hm]
  split <;> rfl

/-- A fraction that has as many bits as the number that covers it. -/
theorem nearest_eq_of_le (hb : b.Legal) (hn : 0 < n) (hd : 0 < d) (h : b.Covers (n / d))
    (hlow : (2 : ℚ) ^ (b.exponent + 52) ≤ n / d ∨ b.exponent = minExponent) :
    nearest n d = some b := by
  obtain ⟨hbl, hbu⟩ := leadingBit_spec hn hd
  have hbit : leadingBit n d < b.exponent + 53 :=
    (zpow_lt_zpow_iff_right₀ (by norm_num)).mp (hbl.trans_lt (h.lt_zpow hb))
  have hq : max (leadingBit n d - 52) minExponent = b.exponent := by
    rcases hlow with hlow | hmin
    · have hge : b.exponent + 52 < leadingBit n d + 1 :=
        (zpow_lt_zpow_iff_right₀ (by norm_num)).mp (hlow.trans_lt hbu)
      have hleast := hb.least
      omega
    · omega
  rw [nearest_eq_of_exponent hn hq ((isNearest_scale hd _).unique h.isNearest), if_neg hb.lt.ne,
    if_neg (not_lt.mpr hb.most)]

/-- A fraction just below a power of two: it is rounded up to that power, from the exponent
before. -/
theorem nearest_eq_of_lt (hb : b.Legal) (hn : 0 < n) (hd : 0 < d) (h : b.Covers (n / d))
    (hlow : (n / d : ℚ) < 2 ^ (b.exponent + 52)) (hmin : b.exponent ≠ minExponent) :
    nearest n d = some b := by
  have hm := h.eq_leadingUnit hb hlow hmin
  obtain ⟨m, q⟩ := b
  obtain rfl : m = leadingUnit := hm
  obtain ⟨-, hleast, hmost, -⟩ := hb
  simp only at hlow hmin hleast hmost
  obtain ⟨hbl, hbu⟩ := leadingBit_spec hn hd
  have hunit := two_zpow_pos q
  have hbelow : (⟨leadingUnit, q⟩ : Binary64).below = 1 :=
    if_pos ⟨rfl, lt_of_le_of_ne hleast (Ne.symm hmin)⟩
  have hlower : ((2 : ℚ) ^ 52 - 1 / 4) * 2 ^ q ≤ n / d := by
    have hcovered := h.1
    rw [hbelow] at hcovered
    simpa only [leadingUnit_eq, Nat.cast_one] using hcovered
  have hq : max (leadingBit n d - 52) minExponent = q - 1 := by
    have hreach : (2 : ℚ) ^ (q + 51) ≤ n / d := by
      rw [zpow_split q 51]
      refine le_trans ?_ hlower
      gcongr
      norm_num
    have hge : q + 51 < leadingBit n d + 1 :=
      (zpow_lt_zpow_iff_right₀ (by norm_num)).mp (hreach.trans_lt hbu)
    have hle : leadingBit n d < q + 52 :=
      (zpow_lt_zpow_iff_right₀ (by norm_num)).mp (hbl.trans_lt hlow)
    omega
  have hnear : IsNearest (2 * leadingUnit) (n / d / 2 ^ (q - 1)) := by
    have hhalf : (n / d : ℚ) / 2 ^ (q - 1) = n / d * 2 / 2 ^ q := by
      rw [zpow_sub₀ (by norm_num), zpow_one, div_div_eq_mul_div]
    rw [hhalf]
    rw [zpow_split q 52] at hlow
    refine ⟨?_, ?_, fun hodd => absurd hodd (by decide)⟩
    · rw [le_div_iff₀ hunit, Nat.cast_mul, leadingUnit_eq]
      push_cast
      linarith
    · rw [div_le_iff₀ hunit, Nat.cast_mul, leadingUnit_eq]
      push_cast
      linarith
  rw [nearest_eq_of_exponent hn hq ((isNearest_scale hd _).unique hnear), if_pos rfl, sub_add_cancel,
    if_neg (not_lt.mpr hmost)]

/-- A fraction that a number covers rounds to it. -/
theorem nearest_eq (hb : b.Legal) (hn : 0 < n) (hd : 0 < d) (h : b.Covers (n / d)) :
    nearest n d = some b := by
  by_cases hmin : b.exponent = minExponent
  · exact nearest_eq_of_le hb hn hd h (.inr hmin)
  · rcases le_or_gt ((2 : ℚ) ^ (b.exponent + 52)) (n / d) with hlow | hlow
    · exact nearest_eq_of_le hb hn hd h (.inl hlow)
    · exact nearest_eq_of_lt hb hn hd h hlow hmin

/-- A fraction has 53 bits at the exponent it is rounded at, or at the least exponent fewer; a
carry makes one more. -/
theorem mantissa_bounds (hn : 0 < n) (hd : 0 < d) {q : Int}
    (hq : max (leadingBit n d - 52) minExponent = q) (hm : IsNearest m (n / d / 2 ^ q)) :
    m ≤ 2 * leadingUnit ∧ (leadingUnit ≤ m ∨ q = minExponent) := by
  obtain ⟨hbl, hbu⟩ := leadingBit_spec hn hd
  have hunit := two_zpow_pos q
  constructor
  · have hupper : (n / d : ℚ) / 2 ^ q < 2 ^ 53 := by
      have hpow : (2 : ℚ) ^ (leadingBit n d + 1) ≤ 2 ^ (q + 53) :=
        zpow_le_zpow_right₀ (by norm_num) (by omega)
      rw [div_lt_iff₀ hunit, ← zpow_split q 53]
      exact hbu.trans_le hpow
    have hrat : (m : ℚ) < 2 ^ 53 + 1 := by linarith [hm.1]
    have hnat : m < 2 ^ 53 + 1 := by exact_mod_cast hrat
    exact Nat.le_of_lt_succ hnat
  · by_cases hmin : q = minExponent
    · exact .inr hmin
    · left
      have hexact : leadingBit n d = q + 52 := by omega
      have hlower : (2 : ℚ) ^ 52 ≤ n / d / 2 ^ q := by
        rw [le_div_iff₀ hunit, ← zpow_split q 52]
        exact hexact ▸ hbl
      have hrat : (2 : ℚ) ^ 52 < m + 1 := by linarith [hm.2.1]
      have hnat : 2 ^ 52 < m + 1 := by exact_mod_cast hrat
      exact Nat.le_of_lt_succ hnat

/-- What rounding gives is held in the form of a number. -/
theorem nearest_legal (hd : 0 < d) (h : nearest n d = some b) : b.Legal := by
  rcases Nat.eq_zero_or_pos n with rfl | hn
  · obtain rfl := Option.some.inj h
    exact ⟨by decide, le_rfl, by decide, .inr rfl⟩
  · obtain ⟨q, hq⟩ : ∃ q, max (leadingBit n d - 52) minExponent = q := ⟨_, rfl⟩
    have hmin : minExponent ≤ q := hq ▸ le_max_right _ _
    obtain ⟨hle, hleading⟩ := mantissa_bounds hn hd hq (isNearest_scale hd q)
    rw [nearest_eq_of_exponent hn hq rfl] at h
    split at h
    · split at h
      · cases h
      · rename_i hmax
        obtain rfl := Option.some.inj h
        have hunit : leadingUnit < 2 * leadingUnit := by decide
        exact ⟨hunit, hmin.trans (Int.le_add_one le_rfl), not_lt.mp hmax, .inl le_rfl⟩
    · split at h
      · cases h
      · rename_i hne hmax
        obtain rfl := Option.some.inj h
        exact ⟨lt_of_le_of_ne hle hne, hmin, not_lt.mp hmax, hleading⟩

end Conform.Binary64
