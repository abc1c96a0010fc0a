import Conform.Value.Written
import Mathlib.Tactic.NormNum

/-!
What can be written. A value can be if all that it holds can, so that it comes down to the integers
in it; and an integer can be up to a power of ten.
-/
namespace Conform.Value

variable {v : Value} {xs : List Value} {ms : List (String × Value)}

theorem areWritable_iff : areWritable xs ↔ ∀ x ∈ xs, x.isWritable := by
  induction xs with
  | nil => simp [areWritable]
  | cons x xs ih => rw [areWritable, Bool.and_eq_true, ih, List.forall_mem_cons]

theorem areMembersWritable_iff : areMembersWritable ms ↔ ∀ m ∈ ms, m.2.isWritable := by
  induction ms with
  | nil => simp [areMembersWritable]
  | cons m ms ih => rw [areMembersWritable, Bool.and_eq_true, ih, List.forall_mem_cons]

theorem isWritable_arr : (Value.arr xs).isWritable ↔ ∀ x ∈ xs, x.isWritable := areWritable_iff

theorem isWritable_set : (Value.set xs).isWritable ↔ ∀ x ∈ xs, x.isWritable := areWritable_iff

theorem isWritable_obj : (Value.obj ms).isWritable ↔ ∀ m ∈ ms, m.2.isWritable :=
  areMembersWritable_iff

/-- An integer can be written if it is less than the power of ten that has too many digits. -/
theorem isWritable_int {n : Int} :
    (Value.int n).isWritable ↔ n.natAbs < 10 ^ Text.maxIntegerDigits := by
  have hpos : 0 < Text.maxIntegerDigits := by decide
  rw [isWritable, Text.isWritable, decide_eq_true_iff,
    Nat.length_toDigits_le_iff (by norm_num) hpos]

theorem not_isWritable_pow {k : Nat} (hk : Text.maxIntegerDigits ≤ k) :
    ¬ (Value.int (-(10 ^ k))).isWritable := by
  rw [isWritable_int, Int.natAbs_neg, Int.natAbs_pow, not_lt]
  exact Nat.pow_le_pow_right (by norm_num) hk

theorem written_of_isWritable (h : v.isWritable) : v.written = .ok v.text := if_pos h

theorem written_of_not_isWritable (h : ¬ v.isWritable) : v.written = .error .unwritable := if_neg h

theorem written_str (t : String) : (Value.str t).written = .ok t := rfl

end Conform.Value
