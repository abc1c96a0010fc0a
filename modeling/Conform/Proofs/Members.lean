import Conform.Proofs.Whereabouts

/-!
Members by their names. With no name twice, what a name finds does not depend on the order of the
members; setting a member changes what its own name finds and nothing else.
-/
namespace Conform.Members

variable {ms ns : Members} {k k' : String} {v : Value}

theorem has_iff_mem : ms.has k ↔ k ∈ keys ms := by
  simp [has, keys]

theorem has_iff : ms.has k ↔ ∃ x, ms.get? k = some x := by
  rw [has_iff_mem, ← List.contains_iff_mem]
  exact Keyword.contains_keys

theorem has_eq_false_iff : ms.has k = false ↔ ms.get? k = none := by
  rw [← Bool.not_eq_true, has_iff, Option.eq_none_iff_forall_ne_some, not_exists]

theorem mem_keys_of_get? (h : ms.get? k = some v) : k ∈ keys ms :=
  has_iff_mem.mp (has_iff.mpr ⟨v, h⟩)

theorem get?_eq_none_iff : ms.get? k = none ↔ k ∉ keys ms := by
  rw [← has_eq_false_iff, ← has_iff_mem, Bool.not_eq_true]

theorem get?_cons (m : String × Value) (ms : Members) (k : String) :
    get? (m :: ms) k = if k = m.1 then some m.2 else get? ms k := by
  obtain ⟨name, x⟩ := m
  by_cases h : k = name
  · subst h
    simp [get?]
  · have hne : (k == name) = false := by simpa using h
    simp [get?, List.lookup_cons, hne, h]

/-- Members of different names are those that their names find. -/
theorem mem_iff_get? (hn : (keys ms).Nodup) : (k, v) ∈ ms ↔ ms.get? k = some v :=
  ⟨Value.get?_of_mem hn, Value.mem_of_get?⟩

theorem get?_perm (hn : (keys ms).Nodup) (h : ms.Perm ns) (k : String) :
    ms.get? k = ns.get? k := by
  have hn' : (keys ns).Nodup := (h.map Prod.fst).nodup_iff.mp hn
  apply Option.ext
  intro v
  rw [← mem_iff_get? hn, ← mem_iff_get? hn', h.mem_iff]

theorem get?_put_of_ne (ms : Members) (v : Value) (h : k ≠ k') :
    (put ms k v).get? k' = ms.get? k' := by
  induction ms with
  | nil => rw [put, get?_cons, if_neg h.symm]
  | cons m ms ih =>
    by_cases hk : m.1 = k
    · have hm : k' ≠ m.1 := by
        rw [hk]
        exact h.symm
      rw [put, if_pos hk, get?_cons, get?_cons, if_neg h.symm, if_neg hm]
    · rw [put, if_neg hk, get?_cons, get?_cons, ih]

/-- Setting a member is seen under its own name only. -/
theorem get?_put_eq (ms : Members) (k k' : String) (v : Value) :
    (put ms k v).get? k' = if k = k' then some v else ms.get? k' := by
  by_cases h : k = k'
  · rw [if_pos h, ← h, get?_put]
  · rw [if_neg h, get?_put_of_ne ms v h]

theorem keys_put_of_mem (v : Value) (h : k ∈ keys ms) : keys (put ms k v) = keys ms := by
  induction ms with
  | nil => cases h
  | cons m ms ih =>
    by_cases hk : m.1 = k
    · rw [put, if_pos hk]
      exact congrArg (· :: keys ms) hk.symm
    · rw [put, if_neg hk]
      have hmem : k ∈ keys ms := (List.mem_cons.mp h).resolve_left fun h => hk h.symm
      exact congrArg (m.1 :: ·) (ih hmem)

theorem put_of_not_mem (v : Value) (h : k ∉ keys ms) : put ms k v = ms ++ [(k, v)] := by
  induction ms with
  | nil => rfl
  | cons m ms ih =>
    obtain ⟨hk, hmem⟩ := not_or.mp fun hk => h (List.mem_cons.mpr hk)
    rw [put, if_neg (Ne.symm hk)]
    exact congrArg (m :: ·) (ih hmem)

theorem keys_put_of_not_mem (v : Value) (h : k ∉ keys ms) : keys (put ms k v) = keys ms ++ [k] := by
  rw [put_of_not_mem v h, keys, List.map_append]
  rfl

theorem nodup_put (v : Value) (hn : (keys ms).Nodup) : (keys (put ms k v)).Nodup := by
  by_cases h : k ∈ keys ms
  · rw [keys_put_of_mem v h]
    exact hn
  · rw [keys_put_of_not_mem v h]
    exact List.Nodup.append hn (List.nodup_singleton k) (List.disjoint_singleton.mpr h)

theorem sorted_perm (ms : Members) : ms.sorted.Perm ms := List.mergeSort_perm _ _

theorem keys_sorted_perm (ms : Members) : (keys ms.sorted).Perm (keys ms) :=
  (sorted_perm ms).map Prod.fst

theorem nodup_sorted (hn : (keys ms).Nodup) : (keys ms.sorted).Nodup :=
  (keys_sorted_perm ms).nodup_iff.mpr hn

theorem get?_sorted (hn : (keys ms).Nodup) (k : String) : ms.sorted.get? k = ms.get? k :=
  get?_perm (nodup_sorted hn) (sorted_perm ms) k

end Conform.Members
