import Conform.Proofs.Children
import Conform.Proofs.Written

/-!
What the tests of the keywords find. Set against a value of a kind that its keyword applies to, a
test finds nothing exactly if the keyword holds of the value. Where it does not hold there is a
complaint, unless that quotes what cannot be written.
-/
namespace Conform

namespace Value.Counts

theorem unique {w : Value} {n m : Nat} (hn : w.Counts n) (hm : w.Counts m) : n = m := by
  rcases hn with rfl | ⟨x, rfl, hx⟩
  · rcases hm with hm | ⟨y, hy, _⟩
    · exact Int.ofNat.inj (Value.int.inj hm)
    · cases hy
  · rcases hm with hm | ⟨y, hy, hy'⟩
    · cases hm
    · obtain rfl := Value.real.inj hy
      exact Int.ofNat.inj (Option.some.inj (hx.symm.trans hy'))

end Value.Counts

namespace Value

variable {v : Value}

theorem rendered_of_isWritable (h : v.isWritable) (limit : Nat) :
    ∃ shown, v.rendered limit = .ok shown := by
  simp only [rendered, h, Bool.not_true, Bool.false_eq_true, ↓reduceIte]
  split
  · exact ⟨_, rfl⟩
  · exact ⟨_, rfl⟩

theorem rendered_of_not_isWritable (h : ¬ v.isWritable) {limit : Nat} :
    v.rendered limit = .error .unwritable := by
  simp [rendered, h]

end Value

theorem Decimal.le_of_lt {a b : Decimal} (h : a.lt b) : a.le b := by
  simp only [Decimal.lt, decide_eq_true_eq] at h
  simp only [Decimal.le, decide_eq_true_eq]
  omega

namespace Test

variable {s : Site} {r : Option Diagnostic}

/-- Nothing is said just where the condition is met. -/
theorem complainUnless_ok {met : Bool} {complaint : Except Fault Diagnostic}
    (h : complainUnless met complaint = .ok r) : r = none ↔ met = true := by
  cases met with
  | true =>
    obtain rfl : none = r := Except.ok.inj h
    simp
  | false =>
    obtain ⟨d, _, rfl⟩ := Answer.map_ok.mp h
    simp

theorem complainUnless_some {met : Bool} {complaint : Except Fault Diagnostic} {d : Diagnostic} :
    complainUnless met complaint = .ok (some d) ↔ met = false ∧ complaint = .ok d := by
  cases met <;> simp [complainUnless]

/-- A complaint that quotes nothing is always made. -/
theorem complainUnless_plain {met : Bool} {d : Diagnostic} :
    complainUnless met (.ok d) = .ok (if met then none else some d) := by
  cases met <;> rfl

/-- Only a complaint fails. -/
theorem complainUnless_error {met : Bool} {complaint : Except Fault Diagnostic} {f : Fault} :
    complainUnless met complaint = .error f ↔ met = false ∧ complaint = .error f := by
  cases met <;> simp [complainUnless]

/-- What a test comes to at a site whose value it was made for: nothing to say where its condition
is met, and otherwise a complaint, unless what that quotes cannot be written. -/
structure Tells (t : Test) (s : Site) (Met Unwritten : Prop) : Prop where
  silent : Met → t.finding s = .ok none
  said : ¬ Met → ¬ Unwritten → ∃ d, t.finding s = .ok (some d)
  refused : ¬ Met → Unwritten → t.finding s = .error .unwritable

namespace Tells

variable {t : Test} {Met Unwritten : Prop}

theorem of_complaint {met : Bool} {complaint : Except Fault Diagnostic}
    (hfinding : t.finding s = complainUnless met complaint) (hmet : met = true ↔ Met)
    (hsaid : ¬ Unwritten → ∃ d, complaint = .ok d)
    (hrefused : Unwritten → complaint = .error .unwritable) : t.Tells s Met Unwritten := by
  have hfalse (h : ¬ Met) : met = false := Bool.eq_false_iff.mpr fun htrue => h (hmet.mp htrue)
  refine ⟨?_, ?_, ?_⟩
  · intro h
    rw [hfinding, hmet.mpr h]
    rfl
  · intro h hlong
    obtain ⟨d, hd⟩ := hsaid hlong
    exact ⟨d, hfinding.trans (complainUnless_some.mpr ⟨hfalse h, hd⟩)⟩
  · intro h hlong
    exact hfinding.trans (complainUnless_error.mpr ⟨hfalse h, hrefused hlong⟩)

theorem of_plain {met : Bool} {d : Diagnostic}
    (hfinding : t.finding s = complainUnless met (.ok d)) (hmet : met = true ↔ Met) :
    t.Tells s Met False :=
  of_complaint hfinding hmet (fun _ => ⟨d, rfl⟩) False.elim

/-- A complaint that quotes one value. -/
theorem of_quoting {met : Bool} {v : Value} {complain : String → Diagnostic}
    (hfinding : t.finding s = complainUnless met (do
      let x ← v.written
      return complain x))
    (hmet : met = true ↔ Met) : t.Tells s Met (¬ v.isWritable) := by
  refine of_complaint hfinding hmet ?_ ?_
  · intro hshort
    rw [Value.written_of_isWritable (not_not.mp hshort)]
    exact ⟨_, rfl⟩
  · intro hlong
    rw [Value.written_of_not_isWritable hlong]
    rfl

/-- A complaint that quotes two values, one after the other. -/
theorem of_quoting_both {met : Bool} {v w : Value} {complain : String → String → Diagnostic}
    (hfinding : t.finding s = complainUnless met (do
      let x ← v.written
      let y ← w.written
      return complain x y))
    (hmet : met = true ↔ Met) : t.Tells s Met (¬ (v.isWritable ∧ w.isWritable)) := by
  refine of_complaint hfinding hmet ?_ ?_
  · intro hshort
    obtain ⟨hv, hw⟩ := not_not.mp hshort
    rw [Value.written_of_isWritable hv, Value.written_of_isWritable hw]
    exact ⟨_, rfl⟩
  · intro hlong
    -- the first of the two that cannot be written ends the complaint
    by_cases hv : v.isWritable
    · have hw : ¬ w.isWritable := fun hw => hlong ⟨hv, hw⟩
      rw [Value.written_of_isWritable hv, Value.written_of_not_isWritable hw]
      rfl
    · rw [Value.written_of_not_isWritable hv]
      rfl

theorem none_iff (h : t.Tells s Met Unwritten) (hr : t.finding s = .ok r) :
    r = none ↔ Met := by
  constructor
  · rintro rfl
    by_contra hmet
    by_cases hlong : Unwritten
    · cases hr.symm.trans (h.refused hmet hlong)
    · obtain ⟨d, hd⟩ := h.said hmet hlong
      cases hr.symm.trans hd
  · intro hmet
    exact Except.ok.inj (hr.symm.trans (h.silent hmet))

theorem some_iff (h : t.Tells s Met Unwritten) :
    (∃ d, t.finding s = .ok (some d)) ↔ ¬ Met ∧ ¬ Unwritten := by
  constructor
  · rintro ⟨d, hd⟩
    have hmet : ¬ Met := fun hmet => nomatch hd.symm.trans (h.silent hmet)
    exact ⟨hmet, fun hlong => nomatch hd.symm.trans (h.refused hmet hlong)⟩
  · intro hsaid
    exact h.said hsaid.1 hsaid.2

theorem error_iff (h : t.Tells s Met Unwritten) {f : Fault} :
    t.finding s = .error f ↔ f = .unwritable ∧ ¬ Met ∧ Unwritten := by
  constructor
  · intro hf
    have hmet : ¬ Met := fun hmet => nomatch hf.symm.trans (h.silent hmet)
    have hlong : Unwritten := by
      by_contra hlong
      obtain ⟨d, hd⟩ := h.said hmet hlong
      cases hf.symm.trans hd
    exact ⟨Except.error.inj (hf.symm.trans (h.refused hmet hlong)), hmet, hlong⟩
  · rintro ⟨rfl, hmet, hlong⟩
    exact h.refused hmet hlong

theorem ne_error (h : t.Tells s Met False) {f : Fault} : t.finding s ≠ .error f :=
  fun hf => (h.error_iff.mp hf).2.2

end Tells

/-- The keyword that a test speaks for. -/
def keyword : Test → String
  | .itemCount keyword _ _ | .bound keyword _ _ _ | .textLength keyword _ _ => keyword
  | .distinct => "uniqueItems"
  | .tupleLength _ => "additionalItems"
  | .multiple _ => "divisibleBy"
  | .pattern _ => "pattern"
  | .required _ => "properties"
  | .closed _ _ => "additionalProperties"
  | .oneOf _ => "enum"
  | .format _ => "format"

/-- All that a test finds is one error at the site, for the keyword of the test. -/
theorem eq_diagnostic_of_finding {t : Test} {d : Diagnostic} (h : t.finding s = .ok (some d)) :
    ∃ message details, d = s.diagnostic message (some t.keyword) details := by
  -- what is said without quoting anything is one error as it stands
  have hplain {met : Bool} {message : String} {keyword : Option String} {details : Members}
      (h : complainUnless met (.ok (s.diagnostic message keyword details)) = .ok (some d)) :
      d = s.diagnostic message keyword details :=
    (Except.ok.inj (complainUnless_some.mp h).2).symm
  cases t with
  | itemCount keyword limit lower =>
    obtain ⟨n, _, h⟩ := Answer.do_ok.mp h
    obtain ⟨most, _, h⟩ := Answer.do_ok.mp (complainUnless_some.mp h).2
    exact ⟨_, _, (Except.ok.inj h).symm⟩
  | distinct =>
    obtain ⟨xs, _, h⟩ := Answer.do_ok.mp h
    obtain ⟨p, _, rfl⟩ := Option.map_eq_some_iff.mp (Except.ok.inj h)
    exact ⟨_, _, rfl⟩
  | tupleLength allowed =>
    obtain ⟨n, _, h⟩ := Answer.do_ok.mp h
    exact ⟨_, _, hplain h⟩
  | bound keyword limit exclusive lower =>
    obtain ⟨x, _, h⟩ := Answer.do_ok.mp h
    obtain ⟨y, _, h⟩ := Answer.do_ok.mp h
    obtain ⟨number, _, h⟩ := Answer.do_ok.mp (complainUnless_some.mp h).2
    obtain ⟨required, _, h⟩ := Answer.do_ok.mp h
    exact ⟨_, _, (Except.ok.inj h).symm⟩
  | multiple divisor =>
    obtain ⟨x, _, h⟩ := Answer.do_ok.mp h
    obtain ⟨y, _, h⟩ := Answer.do_ok.mp h
    obtain ⟨number, _, h⟩ := Answer.do_ok.mp (complainUnless_some.mp h).2
    obtain ⟨wanted, _, h⟩ := Answer.do_ok.mp h
    exact ⟨_, _, (Except.ok.inj h).symm⟩
  | textLength keyword limit lower =>
    obtain ⟨text, _, h⟩ := Answer.do_ok.mp h
    obtain ⟨most, _, h⟩ := Answer.do_ok.mp (complainUnless_some.mp h).2
    exact ⟨_, _, (Except.ok.inj h).symm⟩
  | pattern p =>
    obtain ⟨text, _, h⟩ := Answer.do_ok.mp h
    obtain ⟨b, _, h⟩ := Answer.do_ok.mp h
    exact ⟨_, _, hplain h⟩
  | required names =>
    obtain ⟨absent, _, h⟩ := Answer.do_ok.mp h
    exact ⟨_, _, hplain h⟩
  | closed declared patterns =>
    obtain ⟨extra, _, h⟩ := Answer.do_ok.mp h
    exact ⟨_, _, hplain h⟩
  | oneOf values =>
    obtain ⟨shown, _, h⟩ := Answer.do_ok.mp (complainUnless_some.mp h).2
    exact ⟨_, _, (Except.ok.inj h).symm⟩
  | format f =>
    obtain ⟨kind, _, h⟩ := Answer.do_ok.mp h
    split at h
    · cases h
    · obtain ⟨valid, _, h⟩ := Answer.do_ok.mp h
      exact ⟨_, _, hplain h⟩

theorem within_iff {lower : Bool} {limit n : Nat} :
    within lower limit n ↔ (lower = true → limit ≤ n) ∧ (lower = false → n ≤ limit) := by
  cases lower <;> simp [within]

theorem tells_itemCount {keyword : String} {limit : Nat} {lower : Bool} {xs : List Value}
    (hv : s.value = .arr xs) : (itemCount keyword limit lower).Tells s
      (within lower limit xs.length) (¬ (Value.int limit).isWritable) :=
  .of_quoting (by rw [finding, hv]; rfl) Iff.rfl

theorem tells_textLength {keyword : String} {limit : Nat} {lower : Bool} {t : String}
    (hv : s.value = .str t) : (textLength keyword limit lower).Tells s
      (within lower limit t.length) (¬ (Value.int limit).isWritable) :=
  .of_quoting (by rw [finding, hv]; rfl) Iff.rfl

theorem tells_tupleLength {allowed : Nat} {xs : List Value} (hv : s.value = .arr xs) :
    (tupleLength allowed).Tells s (xs.length ≤ allowed) False :=
  .of_plain (by rw [finding, hv]; rfl) decide_eq_true_iff

theorem firstEqual_eq_none {y : Value} {i : Nat} {xs : List Value} :
    firstEqual y i xs = none ↔ ∀ x ∈ xs, x.equal y = false := by
  induction xs generalizing i with
  | nil => simp [firstEqual]
  | cons x xs ih =>
    cases hx : x.equal y with
    | true => simp [firstEqual, hx]
    | false => simp [firstEqual, hx, ih]

/-- No repetition: no element equals one seen before it. -/
theorem firstRepetition_eq_none {seen xs : List Value} :
    firstRepetition seen xs = none ↔
      (∀ y ∈ xs, ∀ x ∈ seen, x.equal y = false) ∧ xs.Pairwise fun x y => x.equal y = false := by
  induction xs generalizing seen with
  | nil => simp [firstRepetition]
  | cons y ys ih =>
    -- the element joins those seen before it, so these are generalized
    have hstep : firstRepetition seen (y :: ys) = none ↔
        firstEqual y 0 seen = none ∧ firstRepetition (seen ++ [y]) ys = none := by
      rw [firstRepetition]
      cases firstEqual y 0 seen <;> simp
    rw [hstep, firstEqual_eq_none, ih, List.pairwise_cons, List.forall_mem_cons]
    simp only [List.mem_append, List.mem_singleton, or_imp, forall_and, forall_eq]
    constructor
    · intro h
      obtain ⟨h1, ⟨h2, h3⟩, h4⟩ := h
      exact ⟨⟨h1, h2⟩, h3, h4⟩
    · intro h
      obtain ⟨⟨h1, h2⟩, h3, h4⟩ := h
      exact ⟨h1, ⟨h2, h3⟩, h4⟩

theorem tells_distinct {xs : List Value} (hv : s.value = .arr xs) :
    distinct.Tells s (xs.Pairwise fun x y => x.equal y = false) False := by
  have hnone : firstRepetition [] xs = none ↔ xs.Pairwise fun x y => x.equal y = false := by
    rw [firstRepetition_eq_none]
    simp
  obtain ⟨said, hsaid⟩ : ∃ said, distinct.finding s = .ok ((firstRepetition [] xs).map said) := by
    rw [finding, hv]
    exact ⟨_, rfl⟩
  rw [← hnone]
  refine ⟨?_, ?_, fun _ => False.elim⟩
  · intro h
    rw [hsaid, h]
    rfl
  · intro h _
    obtain ⟨p, hp⟩ := Option.ne_none_iff_exists'.mp h
    rw [hsaid, hp]
    exact ⟨_, rfl⟩

theorem toDecimal_of_decimal? {v : Value} {d : Decimal} (h : v.decimal? = some d) :
    v.toDecimal = .ok d := by
  cases v with
  | bool b => simp [Value.decimal?] at h
  | _ => simp [Value.toDecimal, h]

/-- The bound is kept, and strictly so where that is asked for. -/
theorem boundHolds_iff {exclusive lower : Bool} {limit found : Decimal} :
    boundHolds exclusive lower limit found ↔
      (if lower then limit.le found else found.le limit) ∧
        (exclusive = true → if lower then limit.lt found else found.lt limit) := by
  -- what is asked for strictly is asked for in place of the other, which follows from it
  cases lower with
  | true => cases exclusive <;> simp +contextual [boundHolds, Decimal.le_of_lt]
  | false => cases exclusive <;> simp +contextual [boundHolds, Decimal.le_of_lt]

theorem tells_bound {keyword : String} {limit : Value} {exclusive lower : Bool}
    {x most : Decimal} (hx : s.value.decimal? = some x) (hl : limit.decimal? = some most) :
    (bound keyword limit exclusive lower).Tells s (boundHolds exclusive lower most x)
      (¬ (s.value.isWritable ∧ limit.isWritable)) :=
  .of_quoting_both (by
    simp only [finding, toDecimal_of_decimal? hx, toDecimal_of_decimal? hl]
    rfl) Iff.rfl

theorem tells_multiple {divisor : Value} {x unit : Decimal} (hx : s.value.decimal? = some x)
    (hd : divisor.decimal? = some unit) : (multiple divisor).Tells s (x.isMultipleOf unit)
      (¬ (s.value.isWritable ∧ divisor.isWritable)) :=
  .of_quoting_both (by
    simp only [finding, toDecimal_of_decimal? hx, toDecimal_of_decimal? hd]
    rfl) Iff.rfl

theorem pattern_iff {p : Pattern} {t : String} (hv : s.value = .str t)
    (h : (pattern p).finding s = .ok r) : r = none ↔ p.search t = .ok true := by
  simp only [finding, hv, Value.written_str, Answer.do_ok, Except.ok.injEq, exists_eq_left'] at h
  obtain ⟨matched, hm, h⟩ := h
  rw [complainUnless_ok h, hm, Except.ok.injEq]

theorem tells_required {names : List String} {ms : Members} (hv : s.value = .obj ms) :
    (required names).Tells s (∀ n ∈ names, Members.has ms n) False := by
  refine .of_plain (by rw [finding, hv]; rfl) ?_
  rw [List.isEmpty_iff, List.filter_eq_nil_iff]
  simp

theorem tells_oneOf {values : List Value} : (oneOf values).Tells s
    (∃ x ∈ values, s.value.equal x) (¬ s.value.isWritable) := by
  refine .of_complaint rfl List.any_eq_true ?_ ?_
  · intro hshort
    obtain ⟨shown, hshown⟩ := Value.rendered_of_isWritable (not_not.mp hshort) 60
    rw [hshown]
    exact ⟨_, rfl⟩
  · intro hlong
    rw [Value.rendered_of_not_isWritable hlong]
    rfl

theorem format_iff {f : Format} {kind : Kind} (hk : s.kind = .ok kind)
    (h : (format f).finding s = .ok r) :
    r = none ↔ (kind ∈ f.kinds → f.check s.value = .ok true) := by
  simp only [finding, hk, Answer.do_ok, Except.ok.injEq, exists_eq_left'] at h
  by_cases hmem : kind ∈ f.kinds
  · simp only [List.contains_iff_mem.mpr hmem, Bool.not_true, Bool.false_eq_true, ↓reduceIte,
      Answer.do_ok] at h
    obtain ⟨valid, hvalid, h⟩ := h
    rw [complainUnless_ok h, hvalid, Except.ok.injEq]
    simp [hmem]
  · have hno : f.kinds.contains kind = false := by simpa using hmem
    simp only [hno, Bool.not_false, ↓reduceIte] at h
    obtain rfl : none = r := Except.ok.inj h
    simp [hmem]

/-- Searching some patterns, those before the first match being no obstacle. -/
theorem searchAny_ok {name : String} {ps : List Pattern} {b : Bool}
    (h : Pattern.searchAny name ps = .ok b) :
    b = true ↔ ∃ p ∈ ps, p.search name = .ok true := by
  induction ps with
  | nil =>
    obtain rfl : false = b := Except.ok.inj h
    simp
  | cons p ps ih =>
    simp only [Pattern.searchAny, Answer.do_ok] at h
    obtain ⟨matched, hm, h⟩ := h
    cases matched with
    | true =>
      obtain rfl : true = b := Except.ok.inj h
      simp [hm]
    | false =>
      simp only [Bool.false_eq_true, ↓reduceIte] at h
      simp [hm, ih h]

theorem isUndeclared_ok {declared : List String} {patterns : List Pattern} {name : String}
    {b : Bool} (h : isUndeclared declared patterns name = .ok b) :
    b = true ↔ name ∉ declared ∧ ¬ ∃ p ∈ patterns, p.search name = .ok true := by
  unfold isUndeclared at h
  split at h
  · rename_i hd
    obtain rfl : false = b := Except.ok.inj h
    simp [List.contains_iff_mem.mp hd]
  · rename_i hd
    obtain ⟨found, hfound, rfl⟩ := Answer.map_ok.mp h
    rw [List.contains_iff_mem] at hd
    rw [← searchAny_ok hfound]
    simp [hd]

theorem filterAuxM_ok {α : Type} {f : α → Except Fault Bool} {xs acc l : List α}
    (h : List.filterAuxM f xs acc = .ok l) :
    (∀ x ∈ xs, ∃ b, f x = .ok b) ∧ ∀ x, x ∈ l ↔ x ∈ acc ∨ (x ∈ xs ∧ f x = .ok true) := by
  induction xs generalizing acc with
  | nil =>
    obtain rfl : acc = l := Except.ok.inj h
    simp
  | cons y ys ih =>
    simp only [List.filterAuxM, Answer.do_ok] at h
    obtain ⟨b, hb, h⟩ := h
    obtain ⟨hall, hmem⟩ := ih h
    refine ⟨List.forall_mem_cons.mpr ⟨⟨b, hb⟩, hall⟩, ?_⟩
    intro x
    -- what has been kept so far is what the element was added to, or not
    have hacc : x ∈ cond b (y :: acc) acc ↔ x ∈ acc ∨ (x = y ∧ f x = .ok true) := by
      cases b with
      | true =>
        simp only [cond_true, List.mem_cons]
        constructor
        · intro h
          rcases h with rfl | hx
          · exact .inr ⟨rfl, hb⟩
          · exact .inl hx
        · intro h
          rcases h with hx | ⟨rfl, _⟩
          · exact .inr hx
          · exact .inl rfl
      | false =>
        simp only [cond_false]
        constructor
        · exact .inl
        · intro h
          rcases h with hx | ⟨rfl, hx⟩
          · exact hx
          · cases hb.symm.trans hx
    rw [hmem, hacc, List.mem_cons, or_assoc, or_and_right]

theorem filterM_ok {α : Type} {f : α → Except Fault Bool} {xs l : List α}
    (h : xs.filterM f = .ok l) :
    (∀ x ∈ xs, ∃ b, f x = .ok b) ∧ ∀ x, x ∈ l ↔ x ∈ xs ∧ f x = .ok true := by
  unfold List.filterM at h
  obtain ⟨found, hfound, h⟩ := Answer.do_ok.mp h
  obtain rfl := Except.ok.inj h
  obtain ⟨hall, hmem⟩ := filterAuxM_ok hfound
  refine ⟨hall, ?_⟩
  intro x
  rw [List.mem_reverse, hmem]
  simp

theorem closed_iff {declared : List String} {patterns : List Pattern} {ms : Members}
    (hv : s.value = .obj ms) (h : (closed declared patterns).finding s = .ok r) :
    r = none ↔
      ∀ m ∈ ms, m.1 ∈ declared ∨ ∃ p ∈ patterns, p.search m.1 = .ok true := by
  simp only [finding, hv, extraNames, Answer.do_ok, Answer.map_ok] at h
  obtain ⟨extra, ⟨found, hfound, rfl⟩, h⟩ := h
  obtain ⟨hall, hmem⟩ := filterM_ok hfound
  -- sorting loses no name
  have hempty : (sortedNames found).isEmpty ↔ ∀ n ∈ Members.keys ms, n ∉ found := by
    rw [List.isEmpty_iff, sortedNames, ← List.length_eq_zero_iff, List.length_mergeSort,
      List.length_eq_zero_iff, List.eq_nil_iff_forall_not_mem]
    constructor
    · intro hno n _
      exact hno n
    · intro hno n hn
      exact hno n ((hmem n).mp hn).1 hn
  rw [complainUnless_ok h, hempty, Members.keys, List.forall_mem_map]
  refine forall₂_congr fun m hm => ?_
  have hn : m.1 ∈ Members.keys ms := List.mem_map.mpr ⟨m, hm, rfl⟩
  obtain ⟨b, hb⟩ := hall m.1 hn
  rw [hmem, hb, Except.ok.injEq, isUndeclared_ok hb]
  simp only [hn, true_and, not_and, not_not]
  exact or_iff_not_imp_left.symm

end Test

end Conform
