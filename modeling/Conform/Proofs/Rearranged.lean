import Conform.Config.Basic
import Conform.Proofs.Members

/-!
Values up to the order of members. A value is a rearrangement of another one if members stand in
another order at most, at any depth; the elements of lists keep their places. Putting sections in
the order of their names is such a rearrangement.
-/
namespace Conform

section
variable {α β : Type} {P Q : α → β → Prop} {o : Option α} {o' : Option β} {a : α} {b : β}

theorem some_of_rel (h : Option.Rel P o o') (ho : o = some a) : ∃ b, o' = some b ∧ P a b := by
  subst ho
  cases h with
  | some h => exact ⟨_, rfl, h⟩

theorem some_of_rel_right (h : Option.Rel P o o') (ho : o' = some b) :
    ∃ a, o = some a ∧ P a b := by
  subst ho
  cases h with
  | some h => exact ⟨_, rfl, h⟩

theorem rel_imp (h : Option.Rel P o o') (hPQ : ∀ a b, o = some a → o' = some b → P a b → Q a b) :
    Option.Rel Q o o' := by
  cases h with
  | none => exact .none
  | some h => exact .some (hPQ _ _ rfl rfl h)

end

namespace Value

/-- Whether a value has neither elements nor members to rearrange. -/
def isLeaf : Value → Bool
  | .arr _ | .obj _ => false
  | _ => true

/-- No object in the value has a name twice. -/
inductive Distinct : Value → Prop
  | leaf {v : Value} (h : v.isLeaf) : Distinct v
  | list {xs : List Value} (h : ∀ x ∈ xs, Distinct x) : Distinct (.arr xs)
  | object {ms : Members} (hn : (Members.keys ms).Nodup) (h : ∀ m ∈ ms, Distinct m.2) :
      Distinct (.obj ms)

namespace Distinct

variable {v : Value} {ms : Members} {k : String}

theorem nodup (h : Distinct (.obj ms)) : (Members.keys ms).Nodup := by
  cases h with
  | leaf h => cases h
  | object hn _ => exact hn

theorem of_mem {m : String × Value} (h : Distinct (.obj ms)) (hm : m ∈ ms) : Distinct m.2 := by
  cases h with
  | leaf h => cases h
  | object _ h => exact h m hm

theorem of_mem_arr {xs : List Value} {x : Value} (h : Distinct (.arr xs)) (hx : x ∈ xs) :
    Distinct x := by
  cases h with
  | leaf h => cases h
  | list h => exact h x hx

theorem of_get? (h : Distinct (.obj ms)) (hv : ms.get? k = some v) : Distinct v :=
  h.of_mem (mem_of_get? hv)

theorem empty : Distinct (.obj []) := .object List.nodup_nil (by simp)

theorem of_leaves (hn : (Members.keys ms).Nodup) (h : ∀ m ∈ ms, m.2.isLeaf) :
    Distinct (.obj ms) :=
  .object hn fun m hm => .leaf (h m hm)

theorem put (h : Distinct (.obj ms)) (hv : Distinct v) : Distinct (.obj (ms.put k v)) := by
  refine .object (Members.nodup_put v h.nodup) ?_
  intro m hm
  rcases Members.mem_put hm with rfl | hm
  · exact hv
  · exact h.of_mem hm

end Distinct

/-- Values with distinct names that differ in the order of members at most. -/
inductive Rearranged : Value → Value → Prop
  | leaf {v : Value} (h : v.isLeaf) : Rearranged v v
  | list {xs ys : List Value} (hlen : xs.length = ys.length)
      (h : ∀ (i : Nat) (x y : Value), xs[i]? = some x → ys[i]? = some y → Rearranged x y) :
      Rearranged (.arr xs) (.arr ys)
  | object {ms ns : Members} (hn : (Members.keys ms).Nodup)
      (hkeys : (Members.keys ms).Perm (Members.keys ns))
      (h : ∀ (k : String) (x y : Value), ms.get? k = some x → ns.get? k = some y →
        Rearranged x y) :
      Rearranged (.obj ms) (.obj ns)

namespace Rearranged

variable {v w : Value} {xs : List Value} {ms : Members}

theorem symm (h : Rearranged v w) : Rearranged w v := by
  induction h with
  | leaf h => exact .leaf h
  | list hlen _ ih => exact .list hlen.symm fun i y x hy hx => ih i x y hx hy
  | object hn hkeys _ ih =>
    exact .object (hkeys.nodup_iff.mp hn) hkeys.symm fun k y x hy hx => ih k x y hx hy

theorem of_leaf (h : Rearranged v w) (hv : v.isLeaf) : w = v := by
  cases h with
  | leaf => rfl
  | list => cases hv
  | object => cases hv

theorem of_arr (h : Rearranged (.arr xs) w) :
    ∃ ys, w = .arr ys ∧ List.Forall₂ Rearranged xs ys := by
  cases h with
  | leaf hleaf => cases hleaf
  | @list _ ys hlen h =>
    refine ⟨ys, rfl, List.forall₂_iff_get.mpr ⟨hlen, ?_⟩⟩
    intro i hi hi'
    exact h i _ _ (List.getElem?_eq_getElem hi) (List.getElem?_eq_getElem hi')

/-- The same names lead to members that are rearrangements of each other. -/
structure Matched (ms ns : Members) : Prop where
  nodup : (Members.keys ms).Nodup
  keys : (Members.keys ms).Perm (Members.keys ns)
  get? : ∀ k, Option.Rel Rearranged (ms.get? k) (ns.get? k)

theorem of_obj (h : Rearranged (.obj ms) w) : ∃ ns, w = .obj ns ∧ Matched ms ns := by
  cases h with
  | leaf hleaf => cases hleaf
  | @object _ ns hn hkeys h =>
    refine ⟨ns, rfl, hn, hkeys, ?_⟩
    intro k
    cases hx : Members.get? ms k with
    | none =>
      rw [Members.get?_eq_none_iff, hkeys.mem_iff, ← Members.get?_eq_none_iff] at hx
      rw [hx]
      exact .none
    | some x =>
      have hmem : k ∈ Members.keys ns := hkeys.mem_iff.mp (Members.mem_keys_of_get? hx)
      obtain ⟨y, hy⟩ := Members.has_iff.mp (Members.has_iff_mem.mpr hmem)
      rw [hy]
      exact .some (h k x y hx hy)

theorem obj_obj {ns : Members} : Rearranged (.obj ms) (.obj ns) ↔ Matched ms ns := by
  constructor
  · intro h
    obtain ⟨_, hw, h⟩ := h.of_obj
    obtain rfl := Value.obj.inj hw
    exact h
  · intro h
    refine .object h.nodup h.keys ?_
    intro k x y hx hy
    obtain ⟨_, hy', hxy⟩ := some_of_rel (h.get? k) hx
    obtain rfl := Option.some.inj (hy.symm.trans hy')
    exact hxy

theorem distinct (h : Rearranged v w) : Distinct v := by
  induction h with
  | leaf h => exact .leaf h
  | @list xs ys hlen _ ih =>
    refine .list ?_
    intro x hx
    obtain ⟨i, hi, rfl⟩ := List.getElem_of_mem hx
    exact ih i _ _ (List.getElem?_eq_getElem hi) (List.getElem?_eq_getElem (hlen ▸ hi))
  | @object ms ns hn hkeys _ ih =>
    refine .object hn ?_
    intro m hm
    have hmem : m.1 ∈ Members.keys ns := hkeys.mem_iff.mp (List.mem_map_of_mem hm)
    obtain ⟨y, hy⟩ := Members.has_iff.mp (Members.has_iff_mem.mpr hmem)
    exact ih m.1 m.2 y (get?_of_mem hn hm) hy

theorem trans {u : Value} (h : Rearranged u v) (h' : Rearranged v w) : Rearranged u w := by
  induction h generalizing w with
  | leaf hleaf =>
    obtain rfl := h'.of_leaf hleaf
    exact .leaf hleaf
  | @list xs ys hlen _ ih =>
    obtain ⟨zs, rfl, hzs⟩ := h'.of_arr
    obtain ⟨hlen', hzs⟩ := List.forall₂_iff_get.mp hzs
    refine .list (hlen.trans hlen') ?_
    intro i x z hx hz
    obtain ⟨hi, rfl⟩ := List.getElem?_eq_some_iff.mp hx
    obtain ⟨hi', rfl⟩ := List.getElem?_eq_some_iff.mp hz
    exact ih i _ _ hx (List.getElem?_eq_getElem (hlen ▸ hi)) (hzs i (hlen ▸ hi) hi')
  | @object ms ns hn hkeys _ ih =>
    obtain ⟨ps, rfl, hps⟩ := h'.of_obj
    refine .object hn (hkeys.trans hps.keys) ?_
    intro k x z hx hz
    obtain ⟨y, hy, hyz⟩ := some_of_rel_right (hps.get? k) hz
    exact ih k x y hx hy hyz

end Rearranged

theorem Distinct.rearranged {v : Value} (h : v.Distinct) : v.Rearranged v := by
  induction h with
  | leaf h => exact .leaf h
  | list _ ih =>
    refine .list rfl ?_
    intro i x y hx hy
    obtain rfl : x = y := Option.some.inj (hx.symm.trans hy)
    exact ih x (List.mem_of_getElem? hx)
  | object hn _ ih =>
    refine .object hn (.refl _) ?_
    intro k x y hx hy
    obtain rfl : x = y := Option.some.inj (hx.symm.trans hy)
    exact ih (k, x) (mem_of_get? hx)

end Value

namespace Members

variable {α : Type} {P : α → Value → Prop} {fields : List (String × α)} {ms ns : Members}

theorem mem_of_lookup {l : List (String × α)} {k : String} {a : α} (h : l.lookup k = some a) :
    (k, a) ∈ l := by
  obtain ⟨pre, post, hl, _⟩ := List.lookup_eq_some_iff.mp h
  rw [hl]
  exact List.mem_append_right _ List.mem_cons_self

theorem lookup_cons (f : String × α) (l : List (String × α)) (k : String) :
    (f :: l).lookup k = if k = f.1 then some f.2 else l.lookup k := by
  obtain ⟨name, a⟩ := f
  by_cases h : k = name
  · subst h
    simp
  · have hne : (k == name) = false := by simpa using h
    simp [List.lookup_cons, hne, h]

theorem lookup_filter_of_ne {k k' : String} (h : k' ≠ k) (l : List (String × α)) :
    (l.filter (·.1 != k)).lookup k' = l.lookup k' := by
  induction l with
  | nil => rfl
  | cons e l ih =>
    rw [List.filter_cons, lookup_cons]
    by_cases he : e.1 = k
    · have hne : ¬ k' = e.1 := fun hk => h (hk.trans he)
      rw [if_neg (by simp [he]), ih, if_neg hne]
    · rw [if_pos (bne_iff_ne.mpr he), lookup_cons, ih]

theorem lookup_filter_self (l : List (String × α)) (k : String) :
    (l.filter (·.1 != k)).lookup k = none := by
  refine List.lookup_eq_none_iff.mpr fun e he => ?_
  have hne := (List.mem_filter.mp he).2
  exact bne_comm.trans hne

theorem lookup_of_mem {l : List (String × α)} (hn : (l.map Prod.fst).Nodup) {k : String} {a : α}
    (h : (k, a) ∈ l) : l.lookup k = some a := by
  induction l with
  | nil => cases h
  | cons f l ih =>
    obtain ⟨hfresh, hn⟩ := List.nodup_cons.mp hn
    rw [lookup_cons]
    rcases List.mem_cons.mp h with rfl | h
    · rw [if_pos rfl]
    · have hne : k ≠ f.1 := by
        intro hk
        exact hfresh (hk ▸ List.mem_map_of_mem (f := Prod.fst) h)
      rw [if_neg hne, ih hn h]

/-- Whether members are, in some order, one for each of some names, as the name asks for it. -/
def Fills (P : α → Value → Prop) (fields : List (String × α)) (ms : Members) : Prop :=
  ∃ ns : Members, ms.Perm ns ∧ List.Forall₂ (fun f m => f.1 = m.1 ∧ P f.2 m.2) fields ns

theorem lookup_of_forall₂
    (h : List.Forall₂ (fun (f : String × α) (m : String × Value) => f.1 = m.1 ∧ P f.2 m.2)
      fields ns) (k : String) : Option.Rel P (fields.lookup k) (ns.get? k) := by
  induction h with
  | nil => exact .none
  | cons hfm _ ih =>
    rw [lookup_cons, get?_cons, hfm.1]
    split
    · exact .some hfm.2
    · exact ih

theorem Fills.keys_perm (h : Fills P fields ms) : (keys ms).Perm (fields.map Prod.fst) := by
  obtain ⟨ns, hperm, hns⟩ := h
  have hkeys : fields.map Prod.fst = keys ns := by
    induction hns generalizing ms with
    | nil => rfl
    | cons hfm _ ih => exact congrArg₂ List.cons hfm.1 (ih (.refl _))
  rw [hkeys]
  exact hperm.map Prod.fst

/-- What a name stands for and what it finds belong together. -/
theorem Fills.get? (h : Fills P fields ms) (hn : (keys ms).Nodup) (k : String) :
    Option.Rel P (fields.lookup k) (ms.get? k) := by
  obtain ⟨ns, hperm, hns⟩ := h
  rw [get?_perm hn hperm]
  exact lookup_of_forall₂ hns k

theorem fills_of_get? (hn : (keys ms).Nodup) (hf : (fields.map Prod.fst).Nodup)
    (h : ∀ k, Option.Rel P (fields.lookup k) (ms.get? k)) : Fills P fields ms := by
  have hfound {f : String × α} (hmem : f ∈ fields) : ∃ x, ms.get? f.1 = some x ∧ P f.2 x :=
    some_of_rel (h f.1) (lookup_of_mem hf hmem)
  let found (f : String × α) : String × Value := (f.1, (ms.get? f.1).getD .null)
  refine ⟨fields.map found, ?_, ?_⟩
  · have hkeys : (fields.map found).map Prod.fst = fields.map Prod.fst := by
      rw [List.map_map]
      rfl
    -- both lists hold just what the names find
    refine (List.perm_ext_iff_of_nodup (.of_map Prod.fst hn)
      (.of_map Prod.fst (hkeys ▸ hf))).mpr ?_
    intro m
    rw [List.mem_map]
    constructor
    · intro hm
      have hx := (mem_iff_get? hn).mp hm
      obtain ⟨a, hlookup, _⟩ := some_of_rel_right (h m.1) hx
      refine ⟨(m.1, a), mem_of_lookup hlookup, ?_⟩
      simp only [found, hx, Option.getD_some]
    · intro hm
      obtain ⟨f, hmem, rfl⟩ := hm
      obtain ⟨x, hx, _⟩ := hfound hmem
      simp only [found, hx, Option.getD_some]
      exact Value.mem_of_get? hx
  · rw [List.forall₂_map_right_iff, List.forall₂_same]
    intro f hmem
    obtain ⟨x, hx, hp⟩ := hfound hmem
    simp only [found, hx, Option.getD_some]
    exact ⟨trivial, hp⟩

/-- Objects are rearrangements of each other if the members of one fill the names of the other. -/
theorem rearranged_iff_fills : (Value.obj ms).Rearranged (.obj ns) ↔
    (keys ms).Nodup ∧ Fills Value.Rearranged ms ns := by
  rw [Value.Rearranged.obj_obj]
  constructor
  · intro h
    exact ⟨h.nodup, fills_of_get? (h.keys.nodup_iff.mp h.nodup) h.nodup h.get?⟩
  · intro h
    obtain ⟨hn, hfills⟩ := h
    have hkeys := hfills.keys_perm
    exact ⟨hn, hkeys.symm, hfills.get? (hkeys.nodup_iff.mpr hn)⟩

end Members

namespace Config

open Value

theorem orderedMembers_eq_map (ms : Members) :
    orderedMembers ms = ms.map fun m => (m.1, orderedValue m.2) := by
  induction ms with
  | nil => rfl
  | cons m ms ih => rw [orderedMembers, ih, List.map_cons]

theorem keys_orderedMembers (ms : Members) :
    Members.keys (orderedMembers ms) = Members.keys ms := by
  rw [orderedMembers_eq_map, Members.keys, Members.keys, List.map_map]
  rfl

theorem get?_orderedMembers (ms : Members) (k : String) :
    Members.get? (orderedMembers ms) k = (ms.get? k).map orderedValue := by
  induction ms with
  | nil => rfl
  | cons m ms ih =>
    rw [orderedMembers, Members.get?_cons, Members.get?_cons, ih]
    split <;> rfl

/-- The order of names is no matter to a look-up. -/
theorem get?_ordered {c : Members} (hn : (Members.keys c).Nodup) (k : String) :
    (ordered c).get? k = (c.get? k).map orderedValue := by
  have hn' : (Members.keys (orderedMembers c)).Nodup := by
    rw [keys_orderedMembers]
    exact hn
  rw [ordered, Members.get?_sorted hn', get?_orderedMembers]

theorem keys_ordered_perm (c : Members) : (Members.keys (ordered c)).Perm (Members.keys c) := by
  rw [← keys_orderedMembers c]
  exact Members.keys_sorted_perm _

/-- Putting sections in order rearranges a value. -/
theorem rearranged_orderedValue {v : Value} (h : v.Distinct) :
    v.Rearranged (orderedValue v) := by
  induction h with
  | @leaf v h =>
    cases v with
    | obj => cases h
    | _ => exact .leaf h
  | list h => exact (Distinct.list h).rearranged
  | @object ms hn _ ih =>
    refine .object hn (keys_ordered_perm ms).symm ?_
    intro k x y hx hy
    have hget : (ordered ms).get? k = some y := hy
    rw [get?_ordered hn, hx] at hget
    obtain rfl := Option.some.inj hget
    exact ih (k, x) (mem_of_get? hx)

theorem rearranged_ordered {c : Members} (h : (Value.obj c).Distinct) :
    (Value.obj c).Rearranged (.obj (ordered c)) :=
  rearranged_orderedValue h

end Config

end Conform
