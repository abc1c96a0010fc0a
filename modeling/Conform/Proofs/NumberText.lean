import Conform.Json.Reader
import Conform.Json.Writer
import Conform.Proofs.Shortest
import Conform.Proofs.Whereabouts

/-!
The texts of numbers. What is written for an integer is read as that integer, and what is written
for a decimal is read as a decimal of the same magnitude, so that a floating-point number is read
as itself.
-/
namespace Conform.Real

open Pointer

variable {w f ds rest : List Char} {d : Decimal}

theorem digitsValue_append (cs ds : List Char) :
    digitsValue (cs ++ ds) = 10 ^ ds.length * digitsValue cs + digitsValue ds := by
  rw [digitsValue, Nat.ofDigitChars_append, Nat.ofDigitChars_eq_ofDigitChars_zero]
  rfl

theorem digitsValue_replicate_zero (k : Nat) : digitsValue (List.replicate k '0') = 0 := by
  rw [digitsValue, Nat.ofDigitChars_replicate_zero, Nat.mul_zero]

theorem digitsValue_zeros_append (k : Nat) (cs : List Char) :
    digitsValue (List.replicate k '0' ++ cs) = digitsValue cs := by
  rw [digitsValue_append, digitsValue_replicate_zero, Nat.mul_zero, Nat.zero_add]

theorem digitsValue_append_zeros (cs : List Char) (k : Nat) :
    digitsValue (cs ++ List.replicate k '0') = digitsValue cs * 10 ^ k := by
  rw [digitsValue_append, digitsValue_replicate_zero, List.length_replicate, Nat.add_zero,
    Nat.mul_comm]

theorem isDigit_of_mem_toDigits {n : Nat} {c : Char} (h : c ∈ Nat.toDigits 10 n) : c.isDigit :=
  Nat.isDigit_of_mem_toDigits (by omega) (by omega) h

theorem isDigit_of_mem_zeros (k : Nat) : ∀ c ∈ List.replicate k '0', c.isDigit := by
  intro c hc
  rw [(List.mem_replicate.mp hc).2]
  rfl

/-- Whether a text does not go on with a digit. -/
def EndsDigits (rest : List Char) : Prop := ∀ c ∈ rest.head?, c.isDigit = false

theorem takeWhile_digits (hw : ∀ c ∈ w, c.isDigit) (hr : EndsDigits rest) :
    (w ++ rest).takeWhile Char.isDigit = w ∧ (w ++ rest).dropWhile Char.isDigit = rest := by
  rw [List.takeWhile_append_of_pos hw, List.dropWhile_append_of_pos hw]
  cases rest with
  | nil => simp
  | cons c rest => simp [hr c rfl]

theorem readDecimal_point (negative : Bool) (hw : ∀ c ∈ w, c.isDigit) (hf : ∀ c ∈ f, c.isDigit)
    (hne : w ≠ []) :
    readDecimal negative (w ++ '.' :: f) = some ⟨negative, digitsValue (w ++ f), -f.length⟩ := by
  have hpoint : EndsDigits ('.' :: f) := by simp [EndsDigits]
  have hend : EndsDigits [] := by simp [EndsDigits]
  obtain ⟨htake, hdrop⟩ := takeWhile_digits hw hpoint
  obtain ⟨hftake, hfdrop⟩ := takeWhile_digits hf hend
  rw [List.append_nil] at hftake hfdrop
  have hempty : w.isEmpty = false := List.isEmpty_eq_false_iff.mpr hne
  simp only [readDecimal, htake, hdrop, hftake, hfdrop, hempty, Bool.false_and, Bool.false_eq_true,
    ↓reduceIte]

theorem toList_exponentText (width : Nat) (x : Int) :
    (Decimal.exponentText width x).toList = (if x < 0 then '-' else '+') ::
      (List.replicate (width - (Nat.toDigits 10 x.natAbs).length) '0' ++
        Nat.toDigits 10 x.natAbs) := by
  unfold Decimal.exponentText
  by_cases hx : x < 0 <;> simp [hx, String.toList_append, String.toList_ofList]

/-- The digits of a number may have a point in front of some of them, and an exponent. -/
theorem readDecimal_signed (negative minus : Bool) {point zs : List Char}
    (hw : ∀ c ∈ w, c.isDigit) (hf : ∀ c ∈ f, c.isDigit) (hz : ∀ c ∈ zs, c.isDigit) (hne : w ≠ [])
    (hzne : zs ≠ []) (hpoint : point = [] ∧ f = [] ∨ point = '.' :: f) :
    readDecimal negative (w ++ point ++ 'e' :: (if minus then '-' else '+') :: zs) =
      some ⟨negative, digitsValue (w ++ f),
        -f.length + if minus then -(digitsValue zs : Int) else digitsValue zs⟩ := by
  have hempty : w.isEmpty = false := List.isEmpty_eq_false_iff.mpr hne
  have hzempty : zs.isEmpty = false := List.isEmpty_eq_false_iff.mpr hzne
  have hdigits : zs.all Char.isDigit := List.all_eq_true.mpr hz
  have hends (c : Char) : EndsDigits ('e' :: c :: zs) := by simp [EndsDigits]
  rcases hpoint with ⟨rfl, rfl⟩ | rfl
  · have htake (c : Char) := (takeWhile_digits hw (hends c)).1
    have hdrop (c : Char) := (takeWhile_digits hw (hends c)).2
    cases minus <;> simpa [readDecimal, htake, hdrop, hempty, hzne] using hz
  · have hends' (c : Char) : EndsDigits ('.' :: (f ++ 'e' :: c :: zs)) := by simp [EndsDigits]
    have htake (c : Char) := (takeWhile_digits hw (hends' c)).1
    have hdrop (c : Char) := (takeWhile_digits hw (hends' c)).2
    have hftake (c : Char) := (takeWhile_digits hf (hends c)).1
    have hfdrop (c : Char) := (takeWhile_digits hf (hends c)).2
    rw [List.append_assoc, List.cons_append]
    cases minus <;>
      simp only [readDecimal, htake, hdrop, hftake, hfdrop, hempty, hzempty, hdigits,
        Bool.false_and, true_or, Bool.false_eq_true, Bool.not_false, Bool.and_self, ↓reduceIte]

/-- What is read behind the `e` is the exponent that was written there. -/
theorem readDecimal_exponent (negative : Bool) {point : List Char} (hw : ∀ c ∈ w, c.isDigit)
    (hf : ∀ c ∈ f, c.isDigit) (hne : w ≠ []) (hpoint : point = [] ∧ f = [] ∨ point = '.' :: f)
    (width : Nat) (x : Int) :
    readDecimal negative (w ++ point ++ 'e' :: (Decimal.exponentText width x).toList) =
      some ⟨negative, digitsValue (w ++ f), -f.length + x⟩ := by
  obtain ⟨zs, hzs⟩ : ∃ zs, List.replicate (width - (Nat.toDigits 10 x.natAbs).length) '0' ++
      Nat.toDigits 10 x.natAbs = zs := ⟨_, rfl⟩
  have hvalue : digitsValue zs = x.natAbs := by
    rw [← hzs, digitsValue_zeros_append, digitsValue_toDigits]
  have hdigits : ∀ c ∈ zs, c.isDigit := by
    rw [← hzs]
    intro c hc
    exact (List.mem_append.mp hc).elim (isDigit_of_mem_zeros _ c) isDigit_of_mem_toDigits
  have hzne : zs ≠ [] := hzs ▸ List.append_ne_nil_of_right_ne_nil _ Nat.toDigits_ne_nil
  have hread := readDecimal_signed negative (decide (x < 0)) hw hf hdigits hne hzne hpoint
  have hsign : (if decide (x < 0) then -(digitsValue zs : Int) else digitsValue zs) = x := by
    rw [hvalue]
    by_cases hx : x < 0
    · rw [if_pos (decide_eq_true hx)]
      omega
    · rw [if_neg (by simp [hx])]
      omega
  rw [hsign] at hread
  rw [toList_exponentText, hzs, ← hread]
  by_cases hx : x < 0 <;> simp [hx]

/-- The digits before the point of a positional text, and those behind it. -/
theorem toList_pointed (s : List Char) (p : Int) : (Decimal.pointed s p).toList =
    (if p ≤ 0 then ['0'] else s.take p.toNat) ++
      '.' :: (if p ≤ 0 then List.replicate (-p).toNat '0' ++ s else s.drop p.toNat) := by
  unfold Decimal.pointed
  split <;> simp [String.toList_append, String.toList_ofList]

theorem ofDecimal_congr {d d' : Decimal} (hn : d'.negative = d.negative)
    (hm : d'.magnitude = d.magnitude) : Real.ofDecimal d' = Real.ofDecimal d := by
  rw [Real.ofDecimal, Real.ofDecimal, Binary64.ofDecimal_congr hm, hn]

end Conform.Real

namespace Conform.Json

open Pointer Conform.Real

variable {w f : List Char} {d : Decimal}

/-- A text that is read as a number: a sign perhaps, a digit, and what belongs to numbers. -/
structure IsNumeral (cs : List Char) (v : Value) : Prop where
  value : numberOf? cs = some v
  chars : ∀ c ∈ cs, isNumberChar c
  start : ∃ (negative : Bool) (c : Char) (r : List Char),
    cs = (Decimal.signText negative).toList ++ c :: r ∧ c.isDigit

theorem isNumberChar_of_isDigit {c : Char} (h : c.isDigit) : isNumberChar c := by
  simp [isNumberChar, h]

theorem ne_minus_of_isDigit {c : Char} (h : c.isDigit) : c ≠ '-' := by
  rintro rfl
  cases h

/-- A sign is read off first. -/
theorem numberOf?_signed (negative : Bool) {c : Char} (r : List Char) (hc : c.isDigit) :
    numberOf? ((Decimal.signText negative).toList ++ c :: r) =
      if (c :: r).all Char.isDigit then
        some (.int (if negative then -(digitsValue (c :: r) : Int) else digitsValue (c :: r)))
      else (readDecimal negative (c :: r)).map fun d => .real (.ofDecimal d) := by
  cases negative with
  | true => rfl
  | false =>
    have hne := ne_minus_of_isDigit hc
    have hsign : (Decimal.signText false).toList = [] := rfl
    rw [hsign, List.nil_append]
    simp [numberOf?, hne]

theorem isNumberChar_of_mem_signText {negative : Bool} {c : Char}
    (h : c ∈ (Decimal.signText negative).toList) : isNumberChar c := by
  cases negative with
  | true =>
    obtain rfl := List.mem_singleton.mp h
    rfl
  | false => cases h

theorem toList_toString_int (n : Int) : (toString n).toList =
    (Decimal.signText (decide (n < 0))).toList ++ Nat.toDigits 10 n.natAbs := by
  cases n with
  | ofNat k => exact toList_toString k
  | negSucc k =>
    have htext : toString (Int.negSucc k) = "-" ++ toString (k + 1) := rfl
    have hneg : decide (Int.negSucc k < 0) = true := decide_eq_true (Int.negSucc_lt_zero k)
    rw [htext, String.toList_append, toList_toString, hneg]
    rfl

theorem isNumeral_int (n : Int) : IsNumeral (toString n).toList (.int n) := by
  obtain ⟨c, r, hcr⟩ := List.exists_cons_of_ne_nil (Nat.toDigits_ne_nil (n := n.natAbs) (b := 10))
  have hc : c.isDigit := isDigit_of_mem_toDigits (hcr ▸ List.mem_cons_self)
  have hall := all_isDigit_toDigits n.natAbs
  have hvalue := digitsValue_toDigits n.natAbs
  rw [toList_toString_int]
  refine ⟨?_, ?_, decide (n < 0), c, r, by rw [hcr], hc⟩
  · rw [hcr] at hall hvalue ⊢
    rw [numberOf?_signed _ r hc, if_pos hall, hvalue]
    by_cases hn : n < 0
    · rw [if_pos (decide_eq_true hn)]
      congr 2
      omega
    · rw [if_neg (by simpa using hn)]
      congr 2
      omega
  · intro x hx
    rcases List.mem_append.mp hx with hx | hx
    · exact isNumberChar_of_mem_signText hx
    · exact isNumberChar_of_isDigit (isDigit_of_mem_toDigits hx)

/-- The text of a decimal without its sign: it begins with a digit, is no row of digits, and is
read as a decimal of the same magnitude. -/
structure IsBody (d : Decimal) (cs : List Char) : Prop where
  start : ∃ c r, cs = c :: r ∧ c.isDigit
  chars : ∀ c ∈ cs, isNumberChar c
  mixed : cs.all Char.isDigit = false
  read : ∃ d', readDecimal d.negative cs = some d' ∧ d'.negative = d.negative ∧
    d'.magnitude = d.magnitude

theorem IsBody.isNumeral {cs : List Char} (h : IsBody d cs) :
    IsNumeral ((Decimal.signText d.negative).toList ++ cs) (.real (.ofDecimal d)) := by
  obtain ⟨c, r, rfl, hc⟩ := h.start
  obtain ⟨d', hread, hn, hm⟩ := h.read
  refine ⟨?_, ?_, d.negative, c, r, rfl, hc⟩
  · rw [numberOf?_signed _ r hc, h.mixed, if_neg Bool.false_ne_true, hread, Option.map_some,
      ofDecimal_congr hn hm]
  · intro x hx
    rcases List.mem_append.mp hx with hx | hx
    · exact isNumberChar_of_mem_signText hx
    · exact h.chars x hx

/-- A positional text. -/
theorem isBody_point (hw : ∀ c ∈ w, c.isDigit) (hf : ∀ c ∈ f, c.isDigit) (hne : w ≠ [])
    (hm : (digitsValue (w ++ f) * 10 ^ (-f.length : Int) : ℚ) = d.magnitude) :
    IsBody d (w ++ '.' :: f) where
  start := by
    obtain ⟨c, r, rfl⟩ := List.exists_cons_of_ne_nil hne
    exact ⟨c, r ++ '.' :: f, rfl, hw c List.mem_cons_self⟩
  chars := by
    intro c hc
    rcases List.mem_append.mp hc with hc | hc
    · exact isNumberChar_of_isDigit (hw c hc)
    · rcases List.mem_cons.mp hc with rfl | hc
      · rfl
      · exact isNumberChar_of_isDigit (hf c hc)
  mixed := by
    rw [List.all_append, List.all_cons]
    simp
  read := ⟨_, readDecimal_point d.negative hw hf hne, rfl, hm⟩

/-- A text with an exponent. -/
theorem isBody_exponent {point : List Char} (hw : ∀ c ∈ w, c.isDigit) (hf : ∀ c ∈ f, c.isDigit)
    (hne : w ≠ []) (hpoint : point = [] ∧ f = [] ∨ point = '.' :: f) (x : Int)
    (hm : (digitsValue (w ++ f) * 10 ^ (-f.length + x : Int) : ℚ) = d.magnitude) :
    IsBody d (w ++ point ++ 'e' :: (Decimal.exponentText 2 x).toList) where
  start := by
    obtain ⟨c, r, rfl⟩ := List.exists_cons_of_ne_nil hne
    exact ⟨c, _, rfl, hw c List.mem_cons_self⟩
  chars := by
    intro c hc
    rcases List.mem_append.mp hc with hc | hc
    · rcases List.mem_append.mp hc with hc | hc
      · exact isNumberChar_of_isDigit (hw c hc)
      · rcases hpoint with ⟨rfl, -⟩ | rfl
        · cases hc
        · rcases List.mem_cons.mp hc with rfl | hc
          · rfl
          · exact isNumberChar_of_isDigit (hf c hc)
    · rcases List.mem_cons.mp hc with rfl | hc
      · rfl
      · rw [toList_exponentText] at hc
        rcases List.mem_cons.mp hc with rfl | hc
        · split <;> rfl
        · rcases List.mem_append.mp hc with hc | hc
          · exact isNumberChar_of_isDigit (isDigit_of_mem_zeros _ _ hc)
          · exact isNumberChar_of_isDigit (isDigit_of_mem_toDigits hc)
  mixed := by
    rw [List.all_append, List.all_cons]
    simp
  read := ⟨_, readDecimal_exponent d.negative hw hf hne hpoint 2 x, rfl, hm⟩

section Digits

variable {s : List Char} (hs : ∀ c ∈ s, c.isDigit) (hne : s ≠ [])
  (hvalue : digitsValue s = d.digits)

include hs hne hvalue

/-- Zeros behind the digits, and one behind the point. -/
theorem isBody_whole (hexp : 0 ≤ d.exponent) :
    IsBody d (s ++ List.replicate d.exponent.toNat '0' ++ ".0".toList) := by
  obtain ⟨k, hk⟩ := Int.eq_ofNat_of_zero_le hexp
  have hlast : ".0".toList = '.' :: List.replicate 1 '0' := rfl
  rw [hk, Int.toNat_natCast, hlast]
  refine isBody_point ?_ (isDigit_of_mem_zeros 1) (List.append_ne_nil_of_left_ne_nil hne _) ?_
  · intro c hc
    exact (List.mem_append.mp hc).elim (hs c) (isDigit_of_mem_zeros k c)
  · rw [digitsValue_append_zeros, digitsValue_append_zeros, hvalue, Decimal.magnitude, hk,
      List.length_replicate, zpow_natCast]
    push_cast
    rw [zpow_neg_one, mul_inv_cancel_right₀ (by norm_num)]

/-- A point among the digits, or before them behind zeros. -/
theorem isBody_pointed (hexp : d.exponent < 0) :
    IsBody d (Decimal.pointed s (s.length + d.exponent)).toList := by
  rw [toList_pointed]
  by_cases hp : (s.length : Int) + d.exponent ≤ 0
  · rw [if_pos hp, if_pos hp]
    refine isBody_point (isDigit_of_mem_zeros 1) ?_ (List.cons_ne_nil _ _) ?_
    · intro c hc
      exact (List.mem_append.mp hc).elim (isDigit_of_mem_zeros _ c) (hs c)
    · have hall : digitsValue (['0'] ++ (List.replicate (-((s.length : Int) +
          d.exponent)).toNat '0' ++ s)) = d.digits := by
        rw [← hvalue, ← digitsValue_zeros_append _ s]
        exact digitsValue_zeros_append 1 _
      rw [hall, Decimal.magnitude, List.length_append, List.length_replicate]
      congr 2
      omega
  · rw [if_neg hp, if_neg hp]
    refine isBody_point ?_ ?_ ?_ ?_
    · exact fun c hc => hs c (List.mem_of_mem_take hc)
    · exact fun c hc => hs c (List.mem_of_mem_drop hc)
    · rw [Ne, List.take_eq_nil_iff]
      simp only [hne, or_false]
      omega
    · rw [List.take_append_drop, hvalue, Decimal.magnitude, List.length_drop]
      congr 2
      omega

/-- One digit before the point, or a single digit without one, and an exponent. -/
theorem isBody_scientific : IsBody d
    ((if s.length = 1 then String.ofList s else Decimal.pointed s 1).toList ++
      'e' :: (Decimal.exponentText 2 (s.length + d.exponent - 1)).toList) := by
  obtain ⟨c, r, rfl⟩ := List.exists_cons_of_ne_nil hne
  have hmagnitude : (digitsValue ([c] ++ r) *
      10 ^ (-r.length + (((c :: r).length : Int) + d.exponent - 1) : Int) : ℚ) = d.magnitude := by
    rw [List.singleton_append, hvalue, Decimal.magnitude]
    congr 2
    rw [List.length_cons]
    omega
  have hc : ∀ x ∈ [c], x.isDigit := by simpa using hs c List.mem_cons_self
  have hr : ∀ x ∈ r, x.isDigit := fun x hx => hs x (List.mem_cons_of_mem _ hx)
  split
  · rename_i hlen
    obtain rfl : r = [] := List.length_eq_zero_iff.mp (by simpa using hlen)
    rw [String.toList_ofList]
    have hpoint : ([] : List Char) = [] ∧ ([] : List Char) = [] := ⟨rfl, rfl⟩
    exact isBody_exponent hc hr (List.cons_ne_nil _ _) (.inl hpoint) _ hmagnitude
  · rw [toList_pointed, if_neg (by norm_num), if_neg (by norm_num)]
    have hpoint : '.' :: r = '.' :: r := rfl
    exact isBody_exponent hc hr (List.cons_ne_nil _ _) (.inr hpoint) _ hmagnitude

end Digits

/-- The text of a decimal is read as the number that the decimal rounds to. -/
theorem isNumeral_finiteText (d : Decimal) :
    IsNumeral (finiteText d).toList (.real (.ofDecimal d)) := by
  have hs : ∀ c ∈ Nat.toDigits 10 d.digits, c.isDigit := fun c hc => isDigit_of_mem_toDigits hc
  have hne : Nat.toDigits 10 d.digits ≠ [] := Nat.toDigits_ne_nil
  have hvalue := digitsValue_toDigits d.digits
  suffices hbody : ∃ body, (finiteText d).toList =
      (Decimal.signText d.negative).toList ++ body ∧ IsBody d body by
    obtain ⟨body, htext, hbody⟩ := hbody
    rw [htext]
    exact hbody.isNumeral
  unfold finiteText
  simp only [String.toList_append]
  refine ⟨_, rfl, ?_⟩
  split
  · split
    · rename_i hexp
      rw [String.toList_append, String.toList_ofList]
      exact isBody_whole hs hne hvalue hexp
    · rename_i hexp
      exact isBody_pointed hs hne hvalue (not_le.mp hexp)
  · have he : "e".toList = ['e'] := rfl
    rw [String.toList_append, String.toList_append, he, List.append_assoc, List.singleton_append]
    exact isBody_scientific hs hne hvalue

end Conform.Json
