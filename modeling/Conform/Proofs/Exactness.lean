import Conform.Judge
import Conform.Proofs.Acceptance
import Conform.Proofs.Rationals
import Conform.Proofs.Tests

/-!
Bounds and divisors decide exactly. What a keyword of numbers asks is a property of the rational
that a number denotes, at every magnitude and in every form of the number and of the limit. To say
that a number lacks the property takes writing it down, which an integer can be too long for.
-/
namespace Conform

namespace Built

/-- At every site of a number, and whatever else is set, what the logic comes to: yes without a
word if the number has the property; otherwise no with one diagnostic, which quotes the number and
the limit; or a fault, nothing being said, if one of the two cannot be written. -/
def Decides (b : Built) (keyword : String) (limit : Value) (P : ℚ → Prop) : Prop :=
  ∃ l, b = .logic l ∧ ∀ (e : Setting) (judge : Judge) (s : Site) (j : Journal) (x : ℚ),
    s.value.rational? = some x →
      (P x → l.run e judge keyword s j = (j, .ok true)) ∧
      (¬ P x → s.value.isWritable ∧ limit.isWritable →
        ∃ d, d.level = .error ∧ l.run e judge keyword s j = (j.log d, .ok false)) ∧
      (¬ P x → ¬ (s.value.isWritable ∧ limit.isWritable) →
        l.run e judge keyword s j = (j, .error .unwritable))

/-- A test decides a property if its condition is the property. -/
theorem decides_of_tells {t : Test} {keyword : String} {limit : Value} {P : ℚ → Prop}
    {Met : Decimal → Prop} (hP : ∀ d, Met d ↔ P d.toRat)
    (htells : ∀ (s : Site) (d : Decimal), s.value.decimal? = some d →
      t.Tells s (Met d) (¬ (s.value.isWritable ∧ limit.isWritable))) :
    (Keyword.asTest t).Decides keyword limit P := by
  refine ⟨.test t, rfl, ?_⟩
  intro e judge s j x hx
  obtain ⟨d, hd, rfl⟩ := Value.decimal?_of_rational? hx
  have h := htells s d hd
  rw [hP] at h
  refine ⟨?_, ?_, ?_⟩
  · intro hmet
    simp only [Logic.run, Logic.judgeTest, h.silent hmet]
    rfl
  · intro hmet hshort
    obtain ⟨note, hnote⟩ := h.said hmet (not_not.mpr hshort)
    obtain ⟨message, details, rfl⟩ := Test.eq_diagnostic_of_finding hnote
    refine ⟨s.diagnostic message (some t.keyword) details, rfl, ?_⟩
    simp only [Logic.run, Logic.judgeTest, hnote]
    rfl
  · intro hmet hlong
    simp only [Logic.run, Logic.judgeTest, h.refused hmet hlong]
    rfl

end Built

namespace Keyword

/-- The node has a value for a keyword that stands for the number `q`. -/
def HasNumber (node : Members) (keyword : String) (w : Value) (q : ℚ) : Prop :=
  node.get? keyword = some w ∧ w.rational? = some q

/-- An exclusive flag is a truth value, if it is there. -/
def HasFlag (node : Members) (keyword : String) : Prop :=
  ∀ w, node.get? keyword = some w → w.IsBool

def Excludes (node : Members) (keyword : String) : Prop :=
  node.get? keyword = some (.bool true)

/-- On the allowed side of a limit, and not at the limit itself where that is excluded. -/
def Within (lower : Bool) (exclusive : Prop) (limit x : ℚ) : Prop :=
  if lower then limit ≤ x ∧ (exclusive → limit < x) else x ≤ limit ∧ (exclusive → x < limit)

variable {node : Members} {keyword flag : String} {lower : Bool}

theorem hasNumber_of_decimal? {w : Value} {d : Decimal} (hw : node.get? keyword = some w)
    (hd : w.decimal? = some d) : HasNumber node keyword w d.toRat :=
  ⟨hw, congrArg (Option.map Decimal.toRat) hd⟩

theorem boundHolds_iff_within {exclusive : Bool} {most d : Decimal} :
    Test.boundHolds exclusive lower most d ↔
      Within lower (exclusive = true) most.toRat d.toRat := by
  rw [Test.boundHolds_iff]
  cases lower <;> simp only [Within, Decimal.le_iff, Decimal.lt_iff, Bool.false_eq_true, ↓reduceIte]

theorem bound_accepts_iff :
    (∃ b, boundBuilder keyword flag lower node = .ok b) ↔
      (∃ w q, HasNumber node keyword w q) ∧ HasFlag node flag := by
  constructor
  · intro h
    obtain ⟨b, hb⟩ := h
    obtain ⟨w, most, exclusive, hw, hmost, hflag, _⟩ := boundBuilder_ok.mp hb
    exact ⟨⟨w, _, hasNumber_of_decimal? hw hmost⟩, (ownOr_eq_bool.mp hflag).1⟩
  · intro h
    obtain ⟨⟨w, q, hw, hq⟩, hflag⟩ := h
    obtain ⟨most, hmost, _⟩ := Value.decimal?_of_rational? hq
    exact (boundBuilder_isOk hw).mpr ⟨⟨most, hmost⟩, hflag⟩

theorem bound_decides {b : Built} (h : boundBuilder keyword flag lower node = .ok b) :
    ∃ w q, HasNumber node keyword w q ∧
      b.Decides keyword w (Within lower (Excludes node flag) q) := by
  obtain ⟨w, most, exclusive, hw, hmost, hflag, rfl⟩ := boundBuilder_ok.mp h
  have hexcludes : exclusive = true ↔ Excludes node flag := (ownOr_eq_bool.mp hflag).2
  refine ⟨w, most.toRat, hasNumber_of_decimal? hw hmost, ?_⟩
  refine Built.decides_of_tells ?_ fun s d hd => Test.tells_bound hd hmost
  intro d
  rw [boundHolds_iff_within]
  unfold Within
  rw [hexcludes]

theorem divisibleBy_accepts_iff :
    (∃ b, divisibleByBuilder node = .ok b) ↔ ∃ w q, HasNumber node "divisibleBy" w q ∧ 0 < q := by
  constructor
  · intro h
    obtain ⟨b, hb⟩ := h
    obtain ⟨w, unit, hw, hunit, hpos, _⟩ := divisibleByBuilder_ok.mp hb
    exact ⟨w, _, hasNumber_of_decimal? hw hunit, Decimal.isPositive_iff.mp hpos⟩
  · intro h
    obtain ⟨w, q, ⟨hw, hq⟩, hpos⟩ := h
    obtain ⟨unit, hunit, rfl⟩ := Value.decimal?_of_rational? hq
    exact ⟨_, divisibleByBuilder_ok.mpr
      ⟨w, unit, hw, hunit, Decimal.isPositive_iff.mpr hpos, rfl⟩⟩

theorem divisibleBy_decides {b : Built} (h : divisibleByBuilder node = .ok b) :
    ∃ w q, HasNumber node "divisibleBy" w q ∧ 0 < q ∧
      b.Decides "divisibleBy" w fun x => ∃ m : ℤ, x = m * q := by
  obtain ⟨w, unit, hw, hunit, hpos, rfl⟩ := divisibleByBuilder_ok.mp h
  refine ⟨w, unit.toRat, hasNumber_of_decimal? hw hunit, Decimal.isPositive_iff.mp hpos, ?_⟩
  exact Built.decides_of_tells (fun _ => Decimal.isMultipleOf_iff) fun s d hd =>
    Test.tells_multiple hd hunit

/-- What the keywords of numbers accept, and what they then decide of every finite number. -/
theorem numbers_decided_exactly (node : Members) :
    ((∃ b, build .minimum node = .ok b) ↔
      (∃ w q, HasNumber node "minimum" w q) ∧ HasFlag node "exclusiveMinimum") ∧
    ((∃ b, build .maximum node = .ok b) ↔
      (∃ w q, HasNumber node "maximum" w q) ∧ HasFlag node "exclusiveMaximum") ∧
    ((∃ b, build .divisibleBy node = .ok b) ↔ ∃ w q, HasNumber node "divisibleBy" w q ∧ 0 < q) ∧
    (∀ b, build .minimum node = .ok b → ∃ w q, HasNumber node "minimum" w q ∧
      b.Decides "minimum" w fun x =>
        q ≤ x ∧ (Excludes node "exclusiveMinimum" → q < x)) ∧
    (∀ b, build .maximum node = .ok b → ∃ w q, HasNumber node "maximum" w q ∧
      b.Decides "maximum" w fun x =>
        x ≤ q ∧ (Excludes node "exclusiveMaximum" → x < q)) ∧
    (∀ b, build .divisibleBy node = .ok b → ∃ w q, HasNumber node "divisibleBy" w q ∧ 0 < q ∧
      b.Decides "divisibleBy" w fun x => ∃ m : ℤ, x = m * q) :=
  ⟨bound_accepts_iff, bound_accepts_iff, divisibleBy_accepts_iff, fun _ => bound_decides,
    fun _ => bound_decides, fun _ => divisibleBy_decides⟩

/-- Next to the first integer that has no floating-point form: the limit is kept as it is. -/
theorem numbers_decided_exactly_large :
    ∃ b, build .minimum [("minimum", .int 9007199254740993)] = .ok b ∧
      b.Decides "minimum" (.int 9007199254740993) fun x => (9007199254740993 : ℤ) ≤ x := by
  let node : Members := [("minimum", .int 9007199254740993)]
  have h := numbers_decided_exactly node
  have hnumber : HasNumber node "minimum" (.int 9007199254740993) (9007199254740993 : ℤ) :=
    ⟨rfl, Value.rational?_int _⟩
  have hnone : node.get? "exclusiveMinimum" = none := rfl
  obtain ⟨b, hb⟩ := h.1.mpr ⟨⟨_, _, hnumber⟩, fun w hw => nomatch hnone.symm.trans hw⟩
  obtain ⟨w, q, ⟨hw, hq⟩, hdecides⟩ := h.2.2.2.1 b hb
  obtain rfl : .int 9007199254740993 = w := Option.some.inj hw
  obtain rfl : ((9007199254740993 : ℤ) : ℚ) = q :=
    Option.some.inj ((Value.rational?_int _).symm.trans hq)
  -- without the flag the limit itself is within
  have hno : ¬ Excludes node "exclusiveMinimum" := fun h => nomatch hnone.symm.trans h
  simp only [hno, false_imp_iff, and_true] at hdecides
  exact ⟨b, hb, hdecides⟩

/-- A number that is less than a limit of zero and is not refused for it, having 4401 digits. -/
theorem long_number_undecided :
    let node : Members := [("minimum", .int 0)]
    let s : Site := { schema := .obj node, value := .int (-(10 ^ 4400)) }
    (∃ x, s.value.rational? = some x ∧ x < 0) ∧ ∃ l, build .minimum node = .ok (.logic l) ∧
      ∀ e judge j, l.run e judge "minimum" s j = (j, .error .unwritable) := by
  intro node s
  have hlong : ¬ s.value.isWritable := Value.not_isWritable_pow (by decide)
  have hneg : ((-(10 ^ 4400) : ℤ) : ℚ) < 0 := by
    rw [Int.cast_lt_zero, neg_lt_zero]
    positivity
  have hbelow : ¬ Test.boundHolds false true (.ofInt 0) (.ofInt (-(10 ^ 4400))) := by
    intro h
    have hle := (Test.boundHolds_iff.mp h).1
    rw [if_pos rfl, Decimal.le_iff, Decimal.toRat_ofInt, Decimal.toRat_ofInt, Int.cast_zero] at hle
    exact absurd hle (not_le.mpr hneg)
  have h : (Test.bound "minimum" (.int 0) false true).Tells s _ _ := Test.tells_bound rfl rfl
  -- the bound is missed, so what is left is a complaint that quotes the number
  refine ⟨⟨_, Value.rational?_int _, hneg⟩, _, rfl, ?_⟩
  intro e judge j
  simp only [Logic.run, Logic.judgeTest, h.refused hbelow fun hboth => hlong hboth.1]
  rfl

end Keyword

end Conform
