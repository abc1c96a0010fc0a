import Conform.Proofs.Rearranged

/-!
Values read by paths. A path of names leads through members only. What stands where each path
leads, sections without their members, tells a value up to the order of members.
-/
namespace Conform

namespace Value

/-- What a path of names leads to, through members only. -/
def at? : Value → List String → Option Value
  | v, [] => some v
  | .obj ms, k :: ks => (Members.get? ms k).bind (at? · ks)
  | _, _ :: _ => none

def isSection : Value → Bool
  | .obj _ => true
  | _ => false

/-- A value that is no section as it stands, a section without its members. -/
def bare : Value → Value
  | .obj _ => .obj []
  | v => v

/-- What stands where a path leads. -/
def look (v : Value) (p : List String) : Option Value := (v.at? p).map bare

/-- Whether a path would go on below a value that is no section. -/
def Blocks (v : Value) (p : List String) : Prop :=
  ∃ q k rest x, p = q ++ k :: rest ∧ v.at? q = some x ∧ x.isSection = false

variable {v w x : Value} {ms : Members} {k : String} {p q : List String}

@[simp]
theorem at?_nil (v : Value) : v.at? [] = some v := by
  cases v <;> rfl

theorem at?_cons (ms : Members) (k : String) (p : List String) :
    (Value.obj ms).at? (k :: p) = (Members.get? ms k).bind (at? · p) := rfl

theorem at?_append (v : Value) (p q : List String) :
    v.at? (p ++ q) = (v.at? p).bind (at? · q) := by
  induction p generalizing v with
  | nil => rw [List.nil_append, at?_nil, Option.bind_some]
  | cons k p ih =>
    cases v with
    | obj ms =>
      rw [List.cons_append, at?_cons, at?_cons, Option.bind_assoc]
      exact Option.bind_congr fun x _ => ih x
    | _ => rfl

theorem exists_section (h : v.isSection) : ∃ ms, v = .obj ms := by
  cases v with
  | obj ms => exact ⟨ms, rfl⟩
  | _ => cases h

theorem bare_of_not_section (h : v.isSection = false) : v.bare = v := by
  cases v with
  | obj => cases h
  | _ => rfl

@[simp]
theorem isSection_bare (v : Value) : v.bare.isSection = v.isSection := by
  cases v <;> rfl

theorem Distinct.at? (h : v.Distinct) (hx : v.at? p = some x) : x.Distinct := by
  induction p generalizing v with
  | nil =>
    rw [at?_nil] at hx
    obtain rfl := Option.some.inj hx
    exact h
  | cons k p ih =>
    cases v with
    | obj ms =>
      obtain ⟨y, hy, hx⟩ := Option.bind_eq_some_iff.mp hx
      exact ih (h.of_get? hy) hx
    | _ => cases hx

theorem Distinct.bare (h : v.Distinct) : v.bare.Distinct := by
  cases v with
  | obj ms => exact .empty
  | _ => exact h

theorem look_nil (v : Value) : v.look [] = some v.bare := by
  rw [look, at?_nil, Option.map_some]

theorem look_cons (ms : Members) (k : String) (p : List String) :
    (Value.obj ms).look (k :: p) = (Members.get? ms k).bind (look · p) := by
  rw [look, at?_cons, Option.map_bind]
  rfl

theorem look_append (v : Value) (p q : List String) :
    v.look (p ++ q) = (v.at? p).bind (look · q) := by
  rw [look, at?_append, Option.map_bind]
  rfl

theorem look_eq_none_iff : v.look p = none ↔ v.at? p = none := Option.map_eq_none_iff

/-- A value that is no section is looked up whole. -/
theorem look_eq_some_iff (h : x.isSection = false) : v.look p = some x ↔ v.at? p = some x := by
  rw [look, Option.map_eq_some_iff]
  constructor
  · intro hx
    obtain ⟨y, hy, rfl⟩ := hx
    rw [isSection_bare] at h
    rw [hy, bare_of_not_section h]
  · intro hx
    exact ⟨x, hx, bare_of_not_section h⟩

theorem look_section_iff : v.look p = some (.obj []) ↔ ∃ ms, v.at? p = some (.obj ms) := by
  rw [look, Option.map_eq_some_iff]
  constructor
  · intro hx
    obtain ⟨y, hy, hbare⟩ := hx
    cases y with
    | obj ms => exact ⟨ms, hy⟩
    | _ => cases hbare
  · intro hx
    obtain ⟨ms, hms⟩ := hx
    exact ⟨_, hms, rfl⟩

theorem blocks_of_not_section (h : v.isSection = false) (k : String) (p : List String) :
    v.Blocks (k :: p) :=
  ⟨[], k, p, v, rfl, at?_nil v, h⟩

theorem not_blocks_nil (v : Value) : ¬ v.Blocks [] := by
  intro h
  obtain ⟨q, k, rest, x, hp, _⟩ := h
  cases q <;> cases hp

/-- A section blocks what the member that the path goes through blocks. -/
theorem blocks_cons : (Value.obj ms).Blocks (k :: p) ↔ ∃ x, Members.get? ms k = some x ∧
    x.Blocks p := by
  constructor
  · intro h
    obtain ⟨q, k', rest, x, hp, hx, hsection⟩ := h
    cases q with
    | nil =>
      rw [at?_nil] at hx
      obtain rfl := Option.some.inj hx
      cases hsection
    | cons k'' q =>
      obtain ⟨rfl, rfl⟩ := List.cons.inj hp
      obtain ⟨y, hy, hx⟩ := Option.bind_eq_some_iff.mp hx
      exact ⟨y, hy, q, k', rest, x, rfl, hx, hsection⟩
  · intro h
    obtain ⟨y, hy, q, k', rest, x, rfl, hx, hsection⟩ := h
    exact ⟨k :: q, k', rest, x, rfl, by rw [at?_cons, hy]; exact hx, hsection⟩

theorem Blocks.append (h : v.Blocks p) (q : List String) : v.Blocks (p ++ q) := by
  obtain ⟨r, k, rest, x, rfl, hx, hsection⟩ := h
  exact ⟨r, k, rest ++ q, x, by simp, hx, hsection⟩

/-- A path that leads nowhere is blocked just if a longer one is. -/
theorem blocks_append (hnone : v.at? p = none) : v.Blocks (p ++ q) ↔ v.Blocks p := by
  induction p generalizing v with
  | nil => rw [at?_nil] at hnone; cases hnone
  | cons k p ih =>
    cases v with
    | obj ms =>
      rw [List.cons_append, blocks_cons, blocks_cons]
      refine exists_congr fun x => and_congr_right fun hx => ih ?_
      rw [at?_cons, hx] at hnone
      exact hnone
    | _ => exact iff_of_true (blocks_of_not_section rfl _ _) (blocks_of_not_section rfl _ _)

/-- What stands at a path of a value and of a rearrangement of it. -/
theorem Rearranged.look (h : v.Rearranged w) (p : List String) :
    Option.Rel Rearranged (v.look p) (w.look p) := by
  induction p generalizing v w with
  | nil =>
    rw [look_nil, look_nil]
    cases v with
    | obj ms =>
      obtain ⟨ns, rfl, _⟩ := h.of_obj
      exact .some Distinct.empty.rearranged
    | arr xs =>
      obtain ⟨ys, rfl, _⟩ := h.of_arr
      exact .some h
    | _ =>
      obtain rfl := h.of_leaf rfl
      exact .some h
  | cons k p ih =>
    cases v with
    | obj ms =>
      obtain ⟨ns, rfl, hms⟩ := h.of_obj
      rw [look_cons, look_cons]
      have hget := hms.get? k
      generalize Members.get? ms k = o, Members.get? ns k = o' at hget
      cases hget with
      | none => exact .none
      | some hxy => exact ih hxy
    | arr xs =>
      obtain ⟨ys, rfl, _⟩ := h.of_arr
      exact .none
    | _ =>
      obtain rfl := h.of_leaf rfl
      exact .none

/-- Values that look alike at every path differ in the order of members at most. -/
theorem rearranged_of_look (hv : v.Distinct) (hw : w.Distinct)
    (h : ∀ p, Option.Rel Rearranged (v.look p) (w.look p)) : v.Rearranged w := by
  have hbare : v.bare.Rearranged w.bare := by
    have hnil := h []
    rw [look_nil, look_nil] at hnil
    cases hnil with
    | some hbare => exact hbare
  -- on the first value: at its own place the two are alike, and `h` goes on below each member
  induction hv generalizing w with
  | @leaf v hleaf =>
    have hv : v.isSection = false := by
      cases v with
      | obj => cases hleaf
      | _ => rfl
    rw [bare_of_not_section hv] at hbare
    have heq := hbare.of_leaf hleaf
    have hw : w.isSection = false := by rw [← isSection_bare, heq, hv]
    rw [bare_of_not_section hw] at hbare
    exact hbare
  | @list xs _ _ =>
    obtain ⟨ys, heq, _⟩ := hbare.of_arr
    have hw : w.isSection = false := by
      rw [← isSection_bare, heq]
      rfl
    rw [bare_of_not_section hw] at hbare
    exact hbare
  | @object ms hn hms ih =>
    obtain ⟨ns, heq, _⟩ := Rearranged.of_obj hbare
    obtain ⟨ns, rfl⟩ : ∃ ns, w = .obj ns :=
      exists_section (by rw [← isSection_bare, heq]; rfl)
    have hget (k : String) : Option.Rel Rearranged (Members.get? ms k) (Members.get? ns k) := by
      have hbelow (p : List String) := h (k :: p)
      simp only [look_cons] at hbelow
      -- a member of one alone would be seen by the path that ends at it
      cases hx : Members.get? ms k with
      | none =>
        cases hy : Members.get? ns k with
        | none => exact .none
        | some y =>
          have hnil := hbelow []
          rw [hx, hy, Option.bind_none, Option.bind_some, look_nil] at hnil
          cases hnil
      | some x =>
        cases hy : Members.get? ns k with
        | none =>
          have hnil := hbelow []
          rw [hx, hy, Option.bind_none, Option.bind_some, look_nil] at hnil
          cases hnil
        | some y =>
          simp only [hx, hy, Option.bind_some] at hbelow
          have hnil := hbelow []
          rw [look_nil, look_nil] at hnil
          cases hnil with
          | some hxy => exact .some (ih (k, x) (mem_of_get? hx) (hw.of_get? hy) hbelow hxy)
    refine Rearranged.obj_obj.mpr ⟨hn, ?_, hget⟩
    refine (List.perm_ext_iff_of_nodup hn hw.nodup).mpr fun k => ?_
    rw [← Members.has_iff_mem, ← Members.has_iff_mem, Members.has_iff, Members.has_iff]
    constructor
    · rintro ⟨x, hx⟩
      obtain ⟨y, hy, _⟩ := some_of_rel (hget k) hx
      exact ⟨y, hy⟩
    · rintro ⟨y, hy⟩
      obtain ⟨x, hx, _⟩ := some_of_rel_right (hget k) hy
      exact ⟨x, hx⟩

theorem rearranged_of_look_eq (hv : v.Distinct) (hw : w.Distinct)
    (h : ∀ p, v.look p = w.look p) : v.Rearranged w := by
  refine rearranged_of_look hv hw fun p => ?_
  rw [← h p]
  cases hx : v.look p with
  | none => exact .none
  | some x =>
    obtain ⟨y, hy, rfl⟩ := Option.map_eq_some_iff.mp hx
    exact .some (hv.at? hy).bare.rearranged

/-- Values that look alike at a path and below it have the same there. -/
theorem rel_of_look_eq (hv : v.Distinct) (hw : w.Distinct)
    (h : ∀ q, v.look (p ++ q) = w.look (p ++ q)) :
    Option.Rel Rearranged (v.at? p) (w.at? p) := by
  simp only [look_append] at h
  have hnil := h []
  cases hx : v.at? p with
  | none =>
    cases hy : w.at? p with
    | none => exact .none
    | some y => simp [hx, hy, look_nil] at hnil
  | some x =>
    cases hy : w.at? p with
    | none => simp [hx, hy, look_nil] at hnil
    | some y =>
      simp only [hx, hy, Option.bind_some] at h
      exact .some (rearranged_of_look_eq (hv.at? hx) (hw.at? hy) h)

/-- What stands in the way of a path is seen by looking. -/
theorem blocks_iff_look : v.Blocks p ↔
    ∃ q k rest x, p = q ++ k :: rest ∧ v.look q = some x ∧ x.isSection = false := by
  constructor
  · rintro ⟨q, k, rest, x, hp, hx, hsection⟩
    exact ⟨q, k, rest, x, hp, (look_eq_some_iff hsection).mpr hx, hsection⟩
  · rintro ⟨q, k, rest, x, hp, hx, hsection⟩
    exact ⟨q, k, rest, x, hp, (look_eq_some_iff hsection).mp hx, hsection⟩

theorem not_blocks_below (h : v.at? p = some (.obj ms)) (k : String) : ¬ v.Blocks (p ++ [k]) := by
  induction p generalizing v with
  | nil =>
    rw [at?_nil] at h
    obtain rfl := Option.some.inj h
    rw [List.nil_append, blocks_cons]
    rintro ⟨x, _, hx⟩
    exact not_blocks_nil x hx
  | cons k' p ih =>
    cases v with
    | obj ns =>
      obtain ⟨y, hy, h⟩ := Option.bind_eq_some_iff.mp h
      rw [List.cons_append, blocks_cons]
      rintro ⟨x, hx, hblocks⟩
      obtain rfl := Option.some.inj (hx.symm.trans hy)
      exact ih h hblocks
    | _ => cases h

/-- A path leads one step on exactly if it leads to a section with such a member. -/
theorem look_concat_ne_none :
    v.look (p ++ [k]) ≠ none ↔ ∃ ms, v.at? p = some (.obj ms) ∧ k ∈ Members.keys ms := by
  have hmember {x : Value} : (x.at? [k]).isSome ↔ ∃ ms, x = .obj ms ∧ k ∈ Members.keys ms := by
    cases x with
    | obj ms =>
      simp [at?_cons, ← Members.has_iff_mem, Members.has_iff, Option.isSome_iff_exists]
    | _ => exact iff_of_false (by simp [at?]) (by simp)
  rw [ne_eq, look_eq_none_iff, at?_append, ← ne_eq, Option.ne_none_iff_isSome,
    Option.isSome_iff_exists]
  constructor
  · rintro ⟨y, hy⟩
    obtain ⟨x, hx, hy⟩ := Option.bind_eq_some_iff.mp hy
    obtain ⟨ms, rfl, hk⟩ := hmember.mp (Option.isSome_of_eq_some hy)
    exact ⟨ms, hx, hk⟩
  · rintro ⟨ms, hx, hk⟩
    obtain ⟨y, hy⟩ := Option.isSome_iff_exists.mp (hmember.mpr ⟨ms, rfl, hk⟩)
    exact ⟨y, by rw [hx, Option.bind_some, hy]⟩

theorem look_empty_cons (k : String) (p : List String) : (Value.obj []).look (k :: p) = none := rfl

theorem not_blocks_empty (p : List String) : ¬ (Value.obj []).Blocks p := by
  cases p with
  | nil => exact not_blocks_nil _
  | cons k p =>
    rw [blocks_cons]
    rintro ⟨x, hx, _⟩
    cases hx

theorem Rearranged.isSection (h : v.Rearranged w) : v.isSection = w.isSection := by
  cases h <;> rfl

/-- A rearrangement blocks the same paths. -/
theorem Rearranged.blocks (h : v.Rearranged w) (p : List String) : v.Blocks p ↔ w.Blocks p := by
  have hblocks {v w : Value} (h : v.Rearranged w) (hv : v.Blocks p) : w.Blocks p := by
    obtain ⟨q, k, rest, x, rfl, hx, hsection⟩ := blocks_iff_look.mp hv
    obtain ⟨y, hy, hxy⟩ := some_of_rel (h.look q) hx
    exact blocks_iff_look.mpr ⟨q, k, rest, y, rfl, hy, hxy.isSection ▸ hsection⟩
  exact ⟨hblocks h, hblocks h.symm⟩

end Value

end Conform
