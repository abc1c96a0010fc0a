import Conform.Proofs.Appending
import Conform.Proofs.Equality
import Conform.Proofs.Tests
import Mathlib.Order.Bounds.Basic

/-!
Repetitions in a list. A list of data is distinct if no two of its positions hold equal elements;
if it is not, the search names the first position that repeats an earlier one and the first
position that is repeated there, and the test says just that in one diagnostic.
-/
namespace Conform

namespace Test

/-- Both positions of a list hold something, and the same. -/
def EqualAt (xs : List Value) (i k : Nat) : Prop := ∃ x ∈ xs[i]?, ∃ y ∈ xs[k]?, x.equal y

/-- A position of a list holds what an earlier one holds. -/
def Repeats (xs : List Value) (k : Nat) : Prop := ∃ i < k, EqualAt xs i k

variable {xs seen ys : List Value} {y : Value} {i k l r : Nat}

theorem EqualAt.symm (hdata : ∀ x ∈ xs, x.IsData) (h : EqualAt xs i k) : EqualAt xs k i := by
  obtain ⟨x, hx, y, hy, hxy⟩ := h
  have hdx := hdata x (List.mem_of_getElem? hx)
  have hdy := hdata y (List.mem_of_getElem? hy)
  rw [Value.equal_iff_canonical hdx hdy] at hxy
  exact ⟨y, hy, x, hx, (Value.equal_iff_canonical hdy hdx).mpr hxy.symm⟩

/-- The element behind those seen already equals the one at an earlier position exactly if that
one is among them and equal. -/
theorem equalAt_append_cons (hi : i < seen.length) :
    EqualAt (seen ++ y :: ys) i seen.length ↔ seen[i].equal y := by
  simp [EqualAt, List.getElem?_append_left hi, hi]

theorem firstEqual_eq_findIdx? (y : Value) (i : Nat) (xs : List Value) :
    firstEqual y i xs = (xs.findIdx? (·.equal y)).map (i + ·) := by
  induction xs generalizing i with
  | nil => rfl
  | cons x xs ih =>
    rw [firstEqual, List.findIdx?_cons]
    split
    · rfl
    · rw [ih, Option.map_map]
      congr 1
      funext n
      show i + 1 + n = i + (n + 1)
      omega

/-- The search stops at the first repetition, if the elements seen before it hold none. -/
theorem firstRepetition_eq_some (hseen : ∀ k < seen.length, ¬ Repeats (seen ++ ys) k)
    (h : firstRepetition seen ys = some (l, r)) :
    l < r ∧ IsLeast {k | Repeats (seen ++ ys) k} r ∧ IsLeast {i | EqualAt (seen ++ ys) i r} l := by
  induction ys generalizing seen with
  | nil => cases h
  | cons y ys ih =>
    rw [firstRepetition, firstEqual_eq_findIdx?] at h
    cases hfind : seen.findIdx? (·.equal y) with
    | some n =>
      simp only [hfind, Option.map_some, Nat.zero_add, Option.some.injEq, Prod.mk.injEq] at h
      obtain ⟨rfl, rfl⟩ := h
      obtain ⟨hn, hequal, hbefore⟩ := List.findIdx?_eq_some_iff_getElem.mp hfind
      have hat : EqualAt (seen ++ y :: ys) n seen.length := (equalAt_append_cons hn).mpr hequal
      refine ⟨hn, ⟨⟨n, hn, hat⟩, ?_⟩, ⟨hat, ?_⟩⟩
      · intro k hk
        by_contra hlt
        exact hseen k (not_le.mp hlt) hk
      · intro i hi
        by_contra hlt
        have hin : i < n := not_le.mp hlt
        exact hbefore i hin ((equalAt_append_cons (hin.trans hn)).mp hi)
    | none =>
      simp only [hfind, Option.map_none] at h
      have hnew : ∀ k < (seen ++ [y]).length, ¬ Repeats (seen ++ [y] ++ ys) k := by
        intro k hk hrepeats
        rw [List.append_assoc, List.singleton_append] at hrepeats
        rw [List.length_append, List.length_singleton, Nat.lt_succ_iff_lt_or_eq] at hk
        rcases hk with hk | rfl
        · exact hseen k hk hrepeats
        · -- the element itself equals none of those seen
          obtain ⟨i, hi, hat⟩ := hrepeats
          have hno := List.findIdx?_eq_none_iff.mp hfind _ (List.getElem_mem hi)
          exact Bool.false_ne_true (hno.symm.trans ((equalAt_append_cons hi).mp hat))
      have hrest := ih hnew h
      rwa [List.append_assoc, List.singleton_append] at hrest

theorem firstRepetition_eq_none_iff (hdata : ∀ x ∈ xs, x.IsData) :
    firstRepetition [] xs = none ↔ ∀ i k, i ≠ k → ¬ EqualAt xs i k := by
  have hnone : firstRepetition [] xs = none ↔ ∀ i k, i < k → ¬ EqualAt xs i k := by
    rw [firstRepetition_eq_none, List.pairwise_iff_getElem]
    simp only [List.not_mem_nil, false_imp_iff, implies_true, true_and]
    constructor
    · intro h i k hik hat
      obtain ⟨x, hx, y, hy, hxy⟩ := hat
      obtain ⟨hi, rfl⟩ := List.getElem?_eq_some_iff.mp hx
      obtain ⟨hk, rfl⟩ := List.getElem?_eq_some_iff.mp hy
      exact Bool.false_ne_true ((h i k hi hk hik).symm.trans hxy)
    · intro h i k hi hk hik
      rw [← Bool.not_eq_true]
      intro hxy
      exact h i k hik ⟨_, List.getElem?_eq_getElem hi, _, List.getElem?_eq_getElem hk, hxy⟩
  rw [hnone]
  constructor
  · intro h i k hne hat
    -- equality is symmetric, so one of the two positions may be taken for the earlier one
    rcases Nat.lt_or_gt_of_ne hne with hik | hki
    · exact h i k hik hat
    · exact h k i hki (hat.symm hdata)
  · intro h i k hik
    exact h i k hik.ne

end Test

namespace Logic

open Test

/-- What is said of a repetition. -/
def repetition (s : Site) (l r : Nat) : Diagnostic :=
  s.diagnostic ("array items " ++ toString l ++ " and " ++ toString r ++ " are equal")
    (some "uniqueItems") [("duplicates", .arr [.int l, .int r])]

theorem run_distinct (e : Setting) (judge : Judge) (keyword : String) {s : Site} (j : Journal)
    {xs : List Value} (hv : s.value = .arr xs) :
    run e judge keyword (.test .distinct) s j =
      match firstRepetition [] xs with
      | none => (j, .ok true)
      | some (l, r) => (j.log (repetition s l r), .ok false) := by
  have hfinding : distinct.finding s =
      .ok ((firstRepetition [] xs).map fun p => repetition s p.1 p.2) := by
    rw [finding, hv]
    rfl
  rw [run, judgeTest, hfinding]
  cases firstRepetition [] xs <;> rfl

/-- A list of data passes exactly if no two of its positions hold equal elements, and then nothing
is said. Otherwise one error names the first position that repeats an earlier one, and the first
position that holds what it holds, which therefore repeats none. -/
theorem distinct_finds_first_repetition (e : Setting) (judge : Judge) (keyword : String)
    (s : Site) (j : Journal) (xs : List Value) (hv : s.value = .arr xs)
    (hdata : ∀ x ∈ xs, x.IsData) :
    let answer := run e judge keyword (.test .distinct) s j
    (answer.2 = .ok true ↔ ∀ i k, i ≠ k → ¬ EqualAt xs i k) ∧
      (answer.2 = .ok true → answer.1 = j) ∧
      (answer.2 ≠ .ok true → ∃ l r,
        l < r ∧ EqualAt xs l r ∧
        IsLeast {k | ∃ i < k, EqualAt xs i k} r ∧
        IsLeast {i | EqualAt xs i r} l ∧
        (∀ i < l, ¬ EqualAt xs i l) ∧
        answer = (j.log (repetition s l r), .ok false) ∧
        (Severity.error.reaches j.report.level →
          answer.1.report.messages = j.report.messages ++ [repetition s l r])) := by
  intro answer
  have hanswer : answer = _ := run_distinct e judge keyword j hv
  rw [← firstRepetition_eq_none_iff hdata, hanswer]
  cases hfirst : firstRepetition [] xs with
  | none => simp
  | some p =>
    obtain ⟨l, r⟩ := p
    have hstart : ∀ k < ([] : List Value).length, ¬ Repeats ([] ++ xs) k := by simp
    obtain ⟨hlt, hright, hleft⟩ := firstRepetition_eq_some hstart hfirst
    rw [List.nil_append] at hright hleft
    refine ⟨by simp, by simp, fun _ => ⟨l, r, hlt, hleft.1, hright, hleft, ?_, rfl, ?_⟩⟩
    · -- an earlier one equal to the left position would make that the first repetition
      intro i hil hat
      exact absurd (hright.2 ⟨i, hil, hat⟩) (not_le.mpr hlt)
    · intro hreaches
      exact congrArg Report.messages (Report.log_of_reaches hreaches)

/-- One and one point zero stand for one number, also inside of objects: of two repetitions the
one that is complete first is named. -/
theorem distinct_finds_first_repetition_nested :
    let one : Value := .int 1
    let other : Value := .real (.finite ⟨false, 1, 0⟩)
    let xs : List Value :=
      [one, .obj [("a", .arr [one])], .bool true, .obj [("a", .arr [other])], other]
    let s : Site := { schema := .obj [("uniqueItems", .bool true)], value := .arr xs }
    let answer := run ⟨⟨[]⟩, {}, {}, .report⟩ (fun _ => Step.answer true) "uniqueItems"
      (.test .distinct) s ⟨{}, []⟩
    answer = (Journal.log ⟨{}, []⟩ (repetition s 1 3), .ok false) ∧
      IsLeast {k | ∃ i < k, EqualAt xs i k} 3 ∧ IsLeast {i | EqualAt xs i 3} 1 := by
  intro one other xs s answer
  have hone : one.IsData := .int 1
  have hother : other.IsData := .real _
  have hin {v : Value} (hv : v.IsData) : Value.IsData (.obj [("a", .arr [v])]) :=
    .obj (List.nodup_singleton "a") (by simpa using Value.IsData.arr (by simpa using hv))
  have hdata : ∀ x ∈ xs, x.IsData := by
    simpa [xs] using ⟨hone, hin hone, Value.IsData.bool true, hin hother, hother⟩
  have h := distinct_finds_first_repetition ⟨⟨[]⟩, {}, {}, .report⟩ (fun _ => Step.answer true)
    "uniqueItems" s ⟨{}, []⟩ xs rfl hdata
  obtain ⟨l, r, _, _, hright, hleft, _, hanswer, _⟩ := h.2.2 (by intro h; cases h)
  have hdetails : answer.1.report.messages.map Diagnostic.details =
      [[("duplicates", .arr [.int 1, .int 3])]] := rfl
  obtain ⟨rfl, rfl⟩ : l = 1 ∧ r = 3 := by
    rw [show answer = _ from hanswer] at hdetails
    simp [Journal.log, Report.log, Report.add, repetition, Site.diagnostic, Severity.reaches,
      Severity.rank] at hdetails
    omega
  exact ⟨hanswer, hright, hleft⟩

end Logic

end Conform
