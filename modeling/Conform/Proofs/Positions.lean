import Conform.Checker.Children
import Conform.Documents
import Conform.Proofs.Answer
import Mathlib.Algebra.Order.BigOperators.Group.List
import Mathlib.Algebra.Order.Ring.Nat
import Mathlib.Data.List.Induction
import Mathlib.Tactic.IntervalCases

/-!
The positions of a value: the value itself at no tokens, and the positions of each child behind
the token of the child. A value has at most as many of them as its size, and whatever a pointer
or a reference leads to is at one of them.
-/
namespace Conform

namespace Value

theorem size_pos (v : Value) : 0 < v.size := by
  cases v <;> simp only [size] <;> omega

theorem sizeList_eq_sum (xs : List Value) : sizeList xs = (xs.map size).sum := by
  induction xs with
  | nil => rfl
  | cons x xs ih => simp only [sizeList, List.map_cons, List.sum_cons, ih]

theorem sizeMembers_eq_sum (ms : Members) : sizeMembers ms = (ms.map (·.2.size)).sum := by
  induction ms with
  | nil => rfl
  | cons m ms ih => simp only [sizeMembers, List.map_cons, List.sum_cons, ih]

theorem size_le_sum {v : Value} {vs : List Value} (h : v ∈ vs) : v.size ≤ (vs.map size).sum :=
  List.single_le_sum (fun _ _ => Nat.zero_le _) _ (List.mem_map_of_mem h)

theorem size_lt_of_mem_arr {v : Value} {xs : List Value} (h : v ∈ xs) : v.size < (arr xs).size := by
  have hs := size_le_sum h
  simp only [size, sizeList_eq_sum]
  omega

theorem size_le_entries {m : String × Value} {ms : Members} (h : m ∈ ms) :
    m.2.size ≤ (ms.map (·.2.size)).sum :=
  List.single_le_sum (fun _ _ => Nat.zero_le _) _
    (List.mem_map_of_mem (f := fun m : String × Value => m.2.size) h)

theorem size_lt_of_mem_obj {m : String × Value} {ms : Members} (h : m ∈ ms) :
    m.2.size < (obj ms).size := by
  have hs := size_le_entries h
  simp only [size, sizeMembers_eq_sum]
  omega

theorem mem_of_get? {ms : Members} {k : String} {v : Value} (h : ms.get? k = some v) :
    (k, v) ∈ ms := by
  obtain ⟨l, r, hms, _⟩ := List.lookup_eq_some_iff.mp h
  rw [hms]
  exact List.mem_append_right _ List.mem_cons_self

theorem size_lt_of_get? {ms : Members} {k : String} {v : Value} (h : ms.get? k = some v) :
    v.size < (obj ms).size :=
  size_lt_of_mem_obj (mem_of_get? h)

theorem sum_size_elements_lt {v : Value} {xs : List Value} (h : v.elements? = some xs) :
    (xs.map size).sum < v.size := by
  cases v with
  | arr ys =>
    obtain rfl : ys = xs := Option.some.inj h
    simp only [size, sizeList_eq_sum]
    omega
  | bytes os =>
    obtain rfl : os.map (fun o => Value.int o.toNat) = xs := Option.some.inj h
    have hone : ((os.map fun o => Value.int o.toNat).map size) = os.map fun _ => 1 := by
      rw [List.map_map]
      rfl
    rw [hone, List.map_const', List.sum_replicate, Nat.nsmul_eq_mul, Nat.mul_one]
    simp only [size]
    omega
  | _ => simp [elements?] at h

/-- The children of a value are worth less than the value. -/
theorem sum_size_children_lt (v : Value) : (v.children.map (·.2.size)).sum < v.size := by
  -- all values but objects count their children by position
  have hleaf (v : Value) (h : ∀ ms, v ≠ obj ms) :
      (v.children.map (·.2.size)).sum < v.size := by
    have hc : v.children = ((v.elements?.getD []).zipIdx).map fun x => (Token.index x.2, x.1) := by
      cases v <;> first | rfl | exact absurd rfl (h _)
    have hz (xs : List Value) : (xs.zipIdx.map fun x => x.1.size) = xs.map size := by
      rw [← Function.comp_def size Prod.fst, ← List.map_map, List.zipIdx_map_fst]
    rw [hc, List.map_map, Function.comp_def, hz]
    cases he : v.elements? with
    | none => exact size_pos v
    | some xs => exact sum_size_elements_lt he
  cases v with
  | obj ms =>
    simp only [children, List.map_map, Function.comp_def, size, sizeMembers_eq_sum]
    omega
  | _ => exact hleaf _ (by simp)

theorem size_lt_of_mem_children {v : Value} {c : Token × Value} (h : c ∈ v.children) :
    c.2.size < v.size :=
  (List.single_le_sum (fun _ _ => Nat.zero_le _) _
    (List.mem_map_of_mem (f := fun c : Token × Value => c.2.size) h)).trans_lt
    (sum_size_children_lt v)

/-- The nodes of a value, each behind the tokens that lead to it. -/
def positions (v : Value) : List (List String × Value) :=
  ([], v) :: v.children.attach.flatMap fun c =>
    c.1.2.positions.map fun p => (c.1.1.text :: p.1, p.2)
termination_by v.size
decreasing_by exact size_lt_of_mem_children c.2

theorem positions_eq (v : Value) :
    v.positions = ([], v) :: v.children.flatMap fun c =>
      c.2.positions.map fun p => (c.1.text :: p.1, p.2) := by
  rw [positions, List.flatMap_subtype (g := fun c : Token × Value =>
    c.2.positions.map fun p => (c.1.text :: p.1, p.2)) (fun _ _ => rfl), List.unattach_attach]

theorem root_mem_positions (v : Value) : ([], v) ∈ v.positions := by
  rw [positions_eq]
  exact List.mem_cons_self

/-- Without tokens one stays where one is. -/
theorem mem_positions_nil {v w : Value} : ([], w) ∈ v.positions ↔ w = v := by
  rw [positions_eq, List.mem_cons, List.mem_flatMap]
  constructor
  · rintro (h | ⟨c, _, h⟩)
    · exact (Prod.mk.inj h).2
    · obtain ⟨p, _, h⟩ := List.mem_map.mp h
      cases h
  · rintro rfl
    exact .inl rfl

/-- The first token leads to a child, and the others on from there. -/
theorem mem_positions_cons {v w : Value} {t : String} {ts : List String} :
    (t :: ts, w) ∈ v.positions ↔ ∃ c ∈ v.children, c.1.text = t ∧ (ts, w) ∈ c.2.positions := by
  rw [positions_eq, List.mem_cons, List.mem_flatMap]
  constructor
  · rintro (h | ⟨c, hc, h⟩)
    · cases h
    · obtain ⟨p, hp, h⟩ := List.mem_map.mp h
      obtain ⟨htokens, rfl⟩ := Prod.mk.inj h
      obtain ⟨htext, rfl⟩ := List.cons.inj htokens
      exact ⟨c, hc, htext, hp⟩
  · rintro ⟨c, hc, rfl, h⟩
    exact .inr ⟨c, hc, List.mem_map.mpr ⟨(ts, w), h, rfl⟩⟩

theorem mem_positions_of_child {v : Value} {c : Token × Value} {p : List String × Value}
    (hc : c ∈ v.children) (hp : p ∈ c.2.positions) : (c.1.text :: p.1, p.2) ∈ v.positions := by
  exact mem_positions_cons.mpr ⟨c, hc, rfl, hp⟩

theorem length_positions_le (v : Value) : v.positions.length ≤ v.size := by
  rw [positions_eq, List.length_cons, List.length_flatMap]
  -- the recursion is on the value: every child is smaller, and has no more positions than its size
  have hchild : ((v.children.map fun c =>
      (c.2.positions.map fun p => (c.1.text :: p.1, p.2)).length)).sum ≤
      (v.children.map (·.2.size)).sum := by
    apply List.sum_le_sum
    intro c hc
    rw [List.length_map]
    have := size_lt_of_mem_children hc
    exact length_positions_le c.2
  have := sum_size_children_lt v
  omega
termination_by v.size

theorem size_le_of_mem_positions {v : Value} {p : List String × Value} (h : p ∈ v.positions) :
    p.2.size ≤ v.size := by
  rw [positions_eq, List.mem_cons, List.mem_flatMap] at h
  rcases h with rfl | ⟨c, hc, h⟩
  · exact le_rfl
  · obtain ⟨q, hq, rfl⟩ := List.mem_map.mp h
    have hlt := size_lt_of_mem_children hc
    exact (size_le_of_mem_positions hq).trans hlt.le
termination_by v.size

end Value

namespace Pointer

theorem digit_of_isDigit {c : Char} (h : c.isDigit) :
    c.toNat - '0'.toNat < 10 ∧ (c.toNat - '0'.toNat).digitChar = c := by
  have hb : 48 ≤ c.toNat ∧ c.toNat ≤ 57 := by
    simpa [Char.isDigit, UInt32.le_iff_toNat_le] using h
  -- ten digits, so the characters can be enumerated
  have hval (n : Nat) (hn : n < 10) : Nat.digitChar n = Char.ofNat (48 + n) := by
    interval_cases n <;> rfl
  refine ⟨by simp; omega, ?_⟩
  rw [hval _ (by simp; omega)]
  simp only [Char.reduceToNat, Nat.add_sub_cancel' hb.1, Char.ofNat_toNat]

/-- A written number without leading zeros is the one text of its value. -/
theorem toDigits_digitsValue (cs : List Char) (hd : ∀ c ∈ cs, c.isDigit) (hne : cs ≠ [])
    (hz : cs.head? = some '0' → cs.length = 1) :
    Nat.toDigits 10 (Real.digitsValue cs) = cs := by
  unfold Real.digitsValue
  -- the value of the digits so far is at the front, so the induction is on the end of the text
  induction cs using List.reverseRecOn with
  | nil => exact absurd rfl hne
  | append_singleton ds c ih =>
    obtain ⟨hlt, hc⟩ := digit_of_isDigit (hd c (by simp))
    rw [Nat.ofDigitChars_append, Nat.ofDigitChars_cons, Nat.ofDigitChars_nil]
    cases ds with
    | nil =>
      rw [Nat.ofDigitChars_nil, Nat.mul_zero, Nat.zero_add, Nat.toDigits_of_lt_base hlt, hc]
      rfl
    | cons d ds =>
      have hhead : d ≠ '0' := by
        intro h
        subst h
        have := hz rfl
        simp at this
      have hds : Nat.toDigits 10 (Nat.ofDigitChars 10 (d :: ds) 0) = d :: ds :=
        ih (fun x hx => hd x (List.mem_append_left _ hx)) (List.cons_ne_nil _ _)
          (fun h => absurd (Option.some.inj h) hhead)
      -- a value of zero would write a leading zero
      have hpos : 0 < Nat.ofDigitChars 10 (d :: ds) 0 := by
        apply Nat.pos_of_ne_zero
        intro h0
        rw [h0, Nat.toDigits_zero] at hds
        exact hhead (List.cons.inj hds).1.symm
      rw [← Nat.toDigits_append_toDigits (by decide) hpos hlt, hds, Nat.toDigits_of_lt_base hlt, hc]

theorem eq_toString_of_index? {token : String} {i : Nat} (h : index? token = .ok (some i)) :
    token = (Token.index i).text := by
  simp only [index?] at h
  split at h
  · simp at h
  · rename_i hdigits
    split at h
    · simp at h
    · rename_i hzero
      split at h
      · simp at h
      · obtain rfl : Real.digitsValue token.toList = i := by simpa using h
        simp only [Bool.or_eq_true, List.isEmpty_iff, Bool.not_eq_true', List.all_eq_false,
          not_or, not_exists, not_and, Bool.not_eq_true] at hdigits
        have hd : ∀ c ∈ token.toList, c.isDigit := fun c hc => by
          simpa using hdigits.2 c hc
        have hz : token.toList.head? = some '0' → token.toList.length = 1 := by
          intro h0
          have hpos := List.length_pos_of_ne_nil hdigits.1
          simp only [h0, beq_self_eq_true, Bool.and_true, decide_eq_true_eq] at hzero
          omega
        have hchars := toDigits_digitsValue token.toList hd hdigits.1 hz
        apply String.toList_inj.mp
        change token.toList = (toString (Real.digitsValue token.toList)).toList
        rw [Nat.toString_eq_ofList_toDigits, hchars, String.ofList_toList]

/-- A walk ends at a position of the value that it started from. -/
theorem mem_positions_of_walk {p : Pointer} {ts : List String} {depth : Nat} {v w : Value}
    (h : walk p depth ts v = .ok w) : (ts, w) ∈ v.positions := by
  -- the walk recurses on the tokens and takes the node with it
  induction ts generalizing depth v with
  | nil =>
    obtain rfl : v = w := Except.ok.inj h
    exact v.root_mem_positions
  | cons t ts ih =>
    unfold walk at h
    split at h
    · rename_i ms hm
      obtain rfl : v = .obj ms := by cases v <;> simp_all [Value.members?]
      split at h
      · rename_i x hx
        exact Value.mem_positions_of_child (c := (.name t, x))
          (List.mem_map.mpr ⟨(t, x), Value.mem_of_get? hx, rfl⟩) (ih h)
      · simp at h
    · rename_i xs hm he
      split at h
      · simp at h
      · simp at h
      · rename_i i hi
        split at h
        · rename_i x hx
          have hc : (Token.index i, x) ∈ v.children := by
            have : v.children = (xs.zipIdx).map fun x => (Token.index x.2, x.1) := by
              cases v <;> simp_all [Value.children, Value.members?]
            rw [this]
            refine List.mem_map.mpr ⟨(x, i), List.mem_zipIdx_iff_getElem?.mpr hx, rfl⟩
          rw [eq_toString_of_index? hi]
          exact Value.mem_positions_of_child hc (ih h)
        · simp at h
    · simp at h

end Pointer

namespace Documents

/-- The locations of the nodes of all documents. -/
def locations (d : Documents) : List Location :=
  d.entries.flatMap fun m => m.2.positions.map fun p => ⟨m.1, ⟨p.1⟩⟩

theorem length_locations_le (d : Documents) :
    d.locations.length ≤ (d.entries.map (·.2.size)).sum := by
  rw [locations, List.length_flatMap]
  apply List.sum_le_sum
  intro m _
  rw [List.length_map]
  exact m.2.length_positions_le

/-- A reference leads to a node of one of the documents. -/
theorem mem_of_resolve {d : Documents} {reference : Value} {base l : Location} {node : Value}
    (h : d.resolve reference base = .ok (l, node)) :
    ∃ document, d.entries.get? l.uri = some document ∧
      (l.pointer.tokens, node) ∈ document.positions := by
  cases reference with
  | str ref =>
    simp only [resolve, Answer.do_ok] at h
    obtain ⟨target, _, parts, _, h⟩ := h
    -- whichever address it is looked up under, the rest of the way is the same
    split at h
    all_goals
      obtain ⟨uri, _, h⟩ := Answer.do_ok.mp h
      split at h
      · cases h
      · rename_i document hd
        obtain ⟨pointer, _, h⟩ := Answer.do_ok.mp h
        obtain ⟨found, hr, h⟩ := Answer.do_ok.mp h
        obtain ⟨rfl, rfl⟩ := Prod.mk.inj (Except.ok.inj h)
        exact ⟨document, hd, Pointer.mem_positions_of_walk hr⟩
  | _ => simp [resolve] at h

theorem mem_locations_of_resolve {d : Documents} {reference : Value} {base l : Location}
    {node : Value} (h : d.resolve reference base = .ok (l, node)) : l ∈ d.locations := by
  obtain ⟨document, hd, hp⟩ := mem_of_resolve h
  refine List.mem_flatMap.mpr ⟨(l.uri, document), Value.mem_of_get? hd, ?_⟩
  exact List.mem_map.mpr ⟨(l.pointer.tokens, node), hp, rfl⟩

theorem size_le_of_resolve {d : Documents} {reference : Value} {base l : Location}
    {node : Value} (h : d.resolve reference base = .ok (l, node)) :
    node.size ≤ (d.entries.map (·.2.size)).sum := by
  obtain ⟨document, hd, hp⟩ := mem_of_resolve h
  exact (Value.size_le_of_mem_positions hp).trans
    (Value.size_le_entries (Value.mem_of_get? hd))

end Documents

end Conform
