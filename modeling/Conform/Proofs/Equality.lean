import Conform.Proofs.Rationals
import Conform.Proofs.Unordered

/-!
Equality is that of the data model. The canonical form of a value forgets how a number is written
and in which order the members of an object stand, and nothing else; two values are equal exactly
if they have one canonical form. So equality is an equivalence, and what stands inside a larger
value may be replaced by what equals it and by nothing else.
-/
namespace Conform

/-- What values stand for. -/
inductive Canonical where
  | null
  | bool (b : Bool)
  | number (x : ℚ)
  | str (s : String)
  | list (items : List Canonical)
  /-- The members by their names. -/
  | object (find : String → Option Canonical)
  | foreign (v : Value)

namespace Value

/-- A value of the data model: numbers are finite and no object has a name twice. -/
inductive IsData : Value → Prop
  | null : IsData .null
  | bool (b : Bool) : IsData (.bool b)
  | int (n : Int) : IsData (.int n)
  | real (d : Decimal) : IsData (.real (.finite d))
  | str (s : String) : IsData (.str s)
  | arr {xs : List Value} (h : ∀ x ∈ xs, IsData x) : IsData (.arr xs)
  | obj {ms : Members} (hn : (Members.keys ms).Nodup) (h : ∀ m ∈ ms, IsData m.2) :
      IsData (.obj ms)

mutual

def canonical : Value → Canonical
  | .null => .null
  | .bool b => .bool b
  | .int n => .number n
  | .real (.finite d) => .number d.toRat
  | .str s => .str s
  | .arr xs => .list (canonicalList xs)
  | .obj ms => .object fun k => (canonicalMembers ms).lookup k
  | v => .foreign v

def canonicalList : List Value → List Canonical
  | [] => []
  | x :: xs => x.canonical :: canonicalList xs

def canonicalMembers : List (String × Value) → List (String × Canonical)
  | [] => []
  | (k, x) :: ms => (k, x.canonical) :: canonicalMembers ms

end

variable {u v w : Value} {ms ns : Members} {x y : ℚ}

theorem canonical_arr (xs : List Value) : (arr xs).canonical = .list (xs.map canonical) := by
  have h : canonicalList xs = xs.map canonical := by
    induction xs with
    | nil => rfl
    | cons x xs ih => rw [canonicalList, List.map_cons, ih]
  rw [canonical, h]

theorem canonical_obj (ms : Members) :
    (obj ms).canonical = .object fun k => (ms.get? k).map canonical := by
  have h (k : String) : (canonicalMembers ms).lookup k = (ms.get? k).map canonical := by
    induction ms with
    | nil => rfl
    | cons m ms ih =>
      rw [canonicalMembers, Members.get?_cons, List.lookup_cons, ih]
      by_cases hk : k = m.1
      · simp [hk]
      · simp [hk, beq_eq_false_iff_ne.mpr hk]
  rw [canonical]
  exact congrArg Canonical.object (funext h)

theorem canonical_of_rational? (h : v.rational? = some x) : v.canonical = .number x := by
  obtain ⟨d, hd, rfl⟩ := decimal?_of_rational? h
  cases v with
  | int n => rw [canonical, ← Option.some.inj hd, Decimal.toRat_ofInt]
  | real r => cases r with
    | finite d' => rw [canonical, ← Option.some.inj hd]
    | _ => cases hd
  | _ => cases hd

/-- Numbers are equal exactly if they denote the same number, in whatever form. -/
theorem equal_number_iff (hx : v.rational? = some x) (hy : w.rational? = some y) :
    v.equal w ↔ x = y := by
  obtain ⟨a, ha, rfl⟩ := decimal?_of_rational? hx
  obtain ⟨b, hb, rfl⟩ := decimal?_of_rational? hy
  rw [← Decimal.equal_iff]
  have hof (v : Value) (a : Decimal) (ha : v.decimal? = some a) :
      (∃ n, v = .int n ∧ a = .ofInt n) ∨ v = .real (.finite a) := by
    unfold decimal? at ha
    split at ha
    · exact .inl ⟨_, rfl, (Option.some.inj ha).symm⟩
    · exact .inr (by rw [Option.some.inj ha])
    · cases ha
  -- two integers are compared as such, every other pair as decimals
  rcases hof v a ha with ⟨m, rfl, rfl⟩ | rfl <;> rcases hof w b hb with ⟨n, rfl, rfl⟩ | rfl
  · rw [Decimal.equal_iff, Decimal.toRat_ofInt, Decimal.toRat_ofInt, Int.cast_inj, equal,
      beq_iff_eq]
  · rfl
  · rfl
  · rfl

theorem equal_bool_iff (b : Bool) : (bool b).equal v ↔ v = .bool b := by
  cases v with
  | bool c => rw [equal, beq_iff_eq, bool.injEq, eq_comm]
  | _ => simp [equal]

/-- Objects are equal exactly if every name finds equal values in both, or nothing in both. -/
theorem equal_obj_iff (hm : (Members.keys ms).Nodup) (hn : (Members.keys ns).Nodup) :
    (obj ms).equal (obj ns) ↔
      ∀ k, Option.Rel (fun x y : Value => x.equal y) (ms.get? k) (ns.get? k) := by
  rw [equal, Bool.and_eq_true, beq_iff_eq, equalMembers_iff]
  constructor
  · rintro ⟨hlen, h⟩ k
    cases hk : Members.get? ms k with
    | some x =>
      obtain ⟨y, hy, hxy⟩ := h (k, x) (mem_of_get? hk)
      rw [hy]
      exact .some hxy
    | none =>
      -- as many distinct names, all of them found: no other one is left
      have hsub : Members.keys ms ⊆ Members.keys ns := by
        intro name hname
        obtain ⟨m, hmem, rfl⟩ := List.mem_map.mp hname
        obtain ⟨y, hy, _⟩ := h m hmem
        exact Members.mem_keys_of_get? hy
      have hperm : (Members.keys ms).Perm (Members.keys ns) := by
        refine (List.subperm_of_subset hm hsub).perm_of_length_le ?_
        simp [Members.keys, hlen]
      rw [Members.get?_eq_none_iff, hperm.mem_iff, ← Members.get?_eq_none_iff] at hk
      rw [hk]
      exact .none
  · intro h
    have hkeys (k : String) : k ∈ Members.keys ms ↔ k ∈ Members.keys ns := by
      rw [← Members.has_iff_mem, ← Members.has_iff_mem, Members.has_iff, Members.has_iff]
      constructor
      · rintro ⟨x, hx⟩
        obtain ⟨y, hy, _⟩ := some_of_rel (h k) hx
        exact ⟨y, hy⟩
      · rintro ⟨y, hy⟩
        obtain ⟨x, hx, _⟩ := some_of_rel_right (h k) hy
        exact ⟨x, hx⟩
    -- the lengths agree because no name stands twice on either side
    have hperm := (List.perm_ext_iff_of_nodup hm hn).mpr hkeys
    refine ⟨by simpa [Members.keys] using hperm.length_eq, ?_⟩
    intro m hmem
    exact some_of_rel (h m.1) (get?_of_mem hm hmem)

theorem equal_arr_iff_canonical {xs ys : List Value}
    (h : ∀ x ∈ xs, ∀ y ∈ ys, (x.equal y ↔ x.canonical = y.canonical)) :
    (arr xs).equal (arr ys) ↔ (arr xs).canonical = (arr ys).canonical := by
  rw [canonical_arr, canonical_arr, Canonical.list.injEq, equal]
  induction xs generalizing ys with
  | nil => cases ys <;> simp [equalList]
  | cons x xs ih =>
    cases ys with
    | nil => simp [equalList]
    | cons y ys =>
      have hrest := ih fun x' hx' y' hy' =>
        h x' (List.mem_cons_of_mem x hx') y' (List.mem_cons_of_mem y hy')
      rw [equalList, Bool.and_eq_true, List.map_cons, List.map_cons, List.cons.injEq, hrest,
        h x List.mem_cons_self y List.mem_cons_self]

theorem equal_obj_iff_canonical (hm : (Members.keys ms).Nodup) (hn : (Members.keys ns).Nodup)
    (h : ∀ m ∈ ms, ∀ n ∈ ns, (m.2.equal n.2 ↔ m.2.canonical = n.2.canonical)) :
    (obj ms).equal (obj ns) ↔ (obj ms).canonical = (obj ns).canonical := by
  rw [equal_obj_iff hm hn, canonical_obj, canonical_obj, Canonical.object.injEq, funext_iff]
  refine forall_congr' fun k => ?_
  cases hx : Members.get? ms k with
  | none => cases Members.get? ns k <;> simp
  | some x => cases hy : Members.get? ns k with
    | none => simp
    | some y => simpa using h (k, x) (mem_of_get? hx) (k, y) (mem_of_get? hy)

/-- The induction is on the first value; the second one is of the same kind or differs in its
canonical form already. -/
theorem equal_iff_canonical (hv : v.IsData) (hw : w.IsData) :
    v.equal w ↔ v.canonical = w.canonical := by
  have hnumbers {v w : Value} {x y : ℚ} (hx : v.rational? = some x) (hy : w.rational? = some y) :
      v.equal w ↔ v.canonical = w.canonical := by
    rw [equal_number_iff hx hy, canonical_of_rational? hx, canonical_of_rational? hy,
      Canonical.number.injEq]
  induction hv generalizing w with
  | null => cases hw <;> simp [equal, canonical]
  | bool b => cases hw <;> simp [equal, canonical]
  | str s => cases hw <;> simp [equal, canonical]
  | int m => cases hw with
    | int n => exact hnumbers (rational?_int m) (rational?_int n)
    | real e => exact hnumbers (rational?_int m) (rational?_finite e)
    | _ => simp [equal, canonical]
  | real d => cases hw with
    | int n => exact hnumbers (rational?_finite d) (rational?_int n)
    | real e => exact hnumbers (rational?_finite d) (rational?_finite e)
    | _ => simp [equal, canonical]
  | arr _ ih => cases hw with
    | arr hys => exact equal_arr_iff_canonical fun x hx y hy => ih x hx (hys y hy)
    | _ => simp [equal, canonical]
  | obj hm _ ih => cases hw with
    | obj hn hns => exact equal_obj_iff_canonical hm hn fun m hmem n hnem => ih m hmem (hns n hnem)
    | _ => simp [equal, canonical]

/-- A place inside a value, at any depth, with all that stands around it. -/
inductive Surrounding where
  | hole
  | element (before : List Value) (inner : Surrounding) (after : List Value)
  | member (before : Members) (name : String) (inner : Surrounding) (after : Members)

def Surrounding.fill : Surrounding → Value → Value
  | .hole, v => v
  | .element before inner after, v => .arr (before ++ inner.fill v :: after)
  | .member before name inner after, v => .obj (before ++ (name, inner.fill v) :: after)

theorem get?_around (before after : Members) (name k : String) (x : Value) :
    (before ++ (name, x) :: after : Members).get? k =
      (before.get? k).or (if k = name then some x else after.get? k) := by
  rw [Members.get?, List.lookup_append]
  exact congrArg _ (Members.get?_cons (name, x) after k)

theorem get?_name_around {before after : Members} {name : String}
    (hn : (Members.keys (before ++ (name, v) :: after)).Nodup) (x : Value) :
    (before ++ (name, x) :: after : Members).get? name = some x := by
  have hkeys : Members.keys (before ++ (name, x) :: after) =
      Members.keys (before ++ (name, v) :: after) := by
    simp [Members.keys]
  exact get?_of_mem (hkeys ▸ hn) (List.mem_append_right _ List.mem_cons_self)

/-- The canonical form of a whole determines that of what stands at any place in it. -/
theorem canonical_fill (c : Surrounding) (hv : (c.fill v).IsData) :
    (c.fill v).canonical = (c.fill w).canonical ↔ v.canonical = w.canonical := by
  induction c with
  | hole => rfl
  | element before inner after ih =>
    cases hv with
    | arr hv =>
      have hinner := ih (hv _ (List.mem_append_right _ List.mem_cons_self))
      rw [Surrounding.fill, Surrounding.fill, canonical_arr, canonical_arr]
      simpa using hinner
  | member before name inner after ih =>
    cases hv with
    | obj hn hv =>
      have hinner := ih (hv _ (List.mem_append_right _ List.mem_cons_self))
      rw [← hinner, Surrounding.fill, Surrounding.fill, canonical_obj, canonical_obj,
        Canonical.object.injEq]
      constructor
      · intro h
        -- no name stands twice, so the lookup of this one finds what stands at the place
        have hname : Option.map canonical _ = Option.map canonical _ := congrFun h name
        rw [get?_name_around hn, get?_name_around hn] at hname
        exact Option.some.inj hname
      · intro h
        funext k
        rw [get?_around, get?_around, Option.map_or, Option.map_or]
        by_cases hk : k = name
        · simp [hk, h]
        · simp [hk]

/-- Equality of values is equality of what they stand for: an equivalence, under which a truth
value equals nothing else, numbers are compared as numbers, and at every place of a larger value
what stands there counts as it counts alone. -/
theorem equality_of_data (hu : u.IsData) (hv : v.IsData) (hw : w.IsData) :
    u.equal u ∧ (u.equal v → v.equal u) ∧ (u.equal v → v.equal w → u.equal w) ∧
      (u.equal v ↔ u.canonical = v.canonical) ∧
      (∀ b, u = .bool b → (u.equal v ↔ v = u)) ∧
      (∀ x y, u.rational? = some x → v.rational? = some y → (u.equal v ↔ x = y)) ∧
      (∀ m n : Int, u = .int m → v = .int n → (u.equal v ↔ m = n)) ∧
      ∀ c : Surrounding, (c.fill u).IsData → (c.fill v).IsData →
        ((c.fill u).equal (c.fill v) ↔ u.equal v) := by
  have huv := equal_iff_canonical hu hv
  have hvw := equal_iff_canonical hv hw
  refine ⟨(equal_iff_canonical hu hu).mpr rfl, ?_, ?_, huv, ?_, ?_, ?_, ?_⟩
  · intro h
    exact (equal_iff_canonical hv hu).mpr (huv.mp h).symm
  · intro h h'
    apply (equal_iff_canonical hu hw).mpr
    calc u.canonical = v.canonical := huv.mp h
      _ = w.canonical := hvw.mp h'
  · rintro b rfl
    exact equal_bool_iff b
  · intro x y hx hy
    exact equal_number_iff hx hy
  · rintro m n rfl rfl
    rw [equal, beq_iff_eq]
  · intro c hcu hcv
    rw [equal_iff_canonical hcu hcv, huv]
    exact canonical_fill c hcu

/-- One and one point zero, side by side in objects of another order; a truth value in the place
of one is told apart. -/
theorem equality_of_data_respelled :
    let one : Value := .obj [("a", .arr [.null, .int 1]), ("b", .str "x")]
    let other : Value := .obj [("b", .str "x"), ("a", .arr [.null, .real (.finite ⟨false, 10, -1⟩)])]
    let truth : Value := .obj [("b", .str "x"), ("a", .arr [.null, .bool true])]
    one.equal other ∧ other.equal one ∧ ¬ truth.equal other := by
  intro one other truth
  let c : Surrounding := .member [("b", .str "x")] "a" (.element [.null] .hole []) []
  have h1 : IsData (.int 1) := .int 1
  have h2 : IsData (.real (.finite ⟨false, 10, -1⟩)) := .real _
  have h3 : IsData (.bool true) := .bool true
  have hx : IsData (.str "x") := .str "x"
  have harr {v : Value} (hv : v.IsData) : IsData (.arr [.null, v]) := .arr (by simp [hv, IsData.null])
  have hone : one.IsData := .obj (by decide) (by simp [harr h1, hx])
  have hother : other.IsData := .obj (by decide) (by simp [harr h2, hx])
  have htruth : truth.IsData := .obj (by decide) (by simp [harr h3, hx])
  have h := equality_of_data hone hother hone
  have hc := (equality_of_data h3 h2 h2).2.2.2.2.2.2.2 c htruth hother
  have hb := (equality_of_data h3 h2 h2).2.2.2.2.1 true rfl
  have heq : one.equal other := by decide
  refine ⟨heq, h.2.1 heq, ?_⟩
  intro ht
  cases hb.mp (hc.mp ht)

end Value

end Conform
