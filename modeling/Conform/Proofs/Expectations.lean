import Conform.Proofs.Meaning

/-!
The values that an expectation takes are those of the shape that it is named for, and what it hands
back is the data of that shape.
-/
namespace Conform

/-- Members that all are schemas. -/
def Members.ofSchemas (l : List (String × Members)) : Members := l.map fun x => (x.1, .obj x.2)

/-- A part of a keyword's value: the value itself, or the element at the position of the part. -/
def Part.Of (p : Part) (w : Value) : Prop :=
  (p.position = none ∧ p.schema = w) ∨
    ∃ i xs, p.position = some i ∧ w = .arr xs ∧ xs[i]? = some p.schema

namespace Expect

theorem count_ok {keyword : String} {v : Value} {n : Nat} :
    count keyword v = .ok n ↔ v.Counts n := by
  unfold count Value.Counts
  cases v with
  | int i =>
    by_cases hi : 0 ≤ i <;> simp [hi] <;> omega
  | real x =>
    cases hx : x.integer? with
    | none => simp [hx]
    | some i => by_cases hi : 0 ≤ i <;> simp [hx, hi] <;> omega
  | _ => simp

theorem number_ok {keyword : String} {v w : Value} :
    number keyword v = .ok w ↔ w = v ∧ ∃ d, v.decimal? = some d := by
  unfold number
  cases v with
  | int n => simp [Value.decimal?, eq_comm]
  | real x => cases x <;> simp [Value.decimal?, Real.isFinite, eq_comm]
  | _ => simp [Value.decimal?]

theorem boolean_ok {keyword : String} {v : Value} {b : Bool} :
    boolean keyword v = .ok b ↔ v = .bool b := by
  cases v <;> simp [boolean]

theorem string_ok {keyword : String} {v : Value} {s : String} :
    string keyword v = .ok s ↔ v = .str s := by
  cases v <;> simp [string]

theorem memberSchemas_ok {keyword : String} {ms : Members} {l : List (String × Members)} :
    memberSchemas keyword ms = .ok l ↔ ms = Members.ofSchemas l := by
  induction ms generalizing l with
  | nil => cases l <;> simp [memberSchemas, Members.ofSchemas]
  | cons m ms ih =>
    obtain ⟨name, v⟩ := m
    cases v with
    | obj ps =>
      simp only [memberSchemas, Answer.map_ok, ih]
      cases l with
      | nil => simp [Members.ofSchemas]
      | cons x l =>
        simp only [Members.ofSchemas, List.cons.injEq, List.map_cons, Prod.mk.injEq,
          Value.obj.injEq]
        constructor
        · intro h
          obtain ⟨_, rfl, rfl, rfl⟩ := h
          exact ⟨⟨rfl, rfl⟩, rfl⟩
        · intro h
          obtain ⟨⟨rfl, rfl⟩, h⟩ := h
          exact ⟨l, h, rfl, rfl⟩
    | _ => cases l <;> simp [memberSchemas, Members.ofSchemas]

theorem schemaMap_ok {keyword : String} {v : Value} {l : List (String × Members)} :
    schemaMap keyword v = .ok l ↔ v = .obj (Members.ofSchemas l) := by
  cases v <;> simp [schemaMap, schema, memberSchemas_ok]

theorem isSchemaMap_iff {v : Value} :
    v.IsSchemaMap ↔ ∃ l, v = .obj (Members.ofSchemas l) := by
  constructor
  · intro h
    obtain ⟨ms, rfl, h⟩ := h
    induction ms with
    | nil => exact ⟨[], rfl⟩
    | cons m ms ih =>
      obtain ⟨⟨ps, hps⟩, htail⟩ := List.forall_mem_cons.mp h
      obtain ⟨l, hl⟩ := ih htail
      refine ⟨(m.1, ps) :: l, ?_⟩
      rw [Members.ofSchemas, List.map_cons, ← hps, ← Members.ofSchemas, ← Value.obj.inj hl]
  · intro h
    obtain ⟨l, rfl⟩ := h
    refine ⟨_, rfl, ?_⟩
    intro m hm
    obtain ⟨x, _, rfl⟩ := List.mem_map.mp hm
    exact ⟨x.2, rfl⟩

theorem elementSchemas_ok {keyword : String} {i : Nat} {xs : List Value} {parts : List Part}
    (h : elementSchemas keyword i xs = .ok parts) :
    (∀ x ∈ xs, x.IsSchema) ∧ parts.map (·.schema) = xs := by
  induction xs generalizing i parts with
  | nil =>
    obtain rfl : [] = parts := Except.ok.inj h
    simp
  | cons x xs ih =>
    cases x with
    | obj ms =>
      simp only [elementSchemas, Answer.map_ok] at h
      obtain ⟨rest, hrest, rfl⟩ := h
      obtain ⟨hall, hmap⟩ := ih hrest
      exact ⟨List.forall_mem_cons.mpr ⟨⟨ms, rfl⟩, hall⟩, by rw [List.map_cons, hmap]⟩
    | _ => simp [elementSchemas] at h

/-- Parts carry the positions that they were listed at. -/
theorem position_of_elementSchemas {keyword : String} {i : Nat} {xs : List Value}
    {parts : List Part} (h : elementSchemas keyword i xs = .ok parts) {p : Part} (hp : p ∈ parts) :
    ∃ j, p.position = some (i + j) ∧ xs[j]? = some p.schema := by
  induction xs generalizing i parts with
  | nil =>
    obtain rfl : [] = parts := Except.ok.inj h
    simp at hp
  | cons x xs ih =>
    cases x with
    | obj ms =>
      obtain ⟨rest, hrest, rfl⟩ := Answer.map_ok.mp h
      rcases List.mem_cons.mp hp with rfl | hp
      · exact ⟨0, rfl, rfl⟩
      · obtain ⟨j, hj, hx⟩ := ih hrest hp
        refine ⟨j + 1, ?_, hx⟩
        rw [hj, Nat.add_assoc, Nat.add_comm 1]
    | _ => simp [elementSchemas] at h

theorem elementSchemas_isOk {keyword : String} {i : Nat} {xs : List Value}
    (h : ∀ x ∈ xs, x.IsSchema) : ∃ parts, elementSchemas keyword i xs = .ok parts := by
  induction xs generalizing i with
  | nil => exact ⟨[], rfl⟩
  | cons x xs ih =>
    obtain ⟨⟨ms, rfl⟩, hxs⟩ := List.forall_mem_cons.mp h
    obtain ⟨rest, hrest⟩ := ih (i := i + 1) hxs
    exact ⟨_, by rw [elementSchemas, hrest]; rfl⟩

theorem schemas_ok {keyword : String} {v : Value} {parts : List Part}
    (h : schemas keyword v = .ok parts) : v.IsSchemaList ∧ parts.map (·.schema) = v.listed := by
  cases v with
  | obj ms =>
    obtain rfl : [⟨none, .obj ms⟩] = parts := Except.ok.inj h
    exact ⟨.inl ⟨ms, rfl⟩, rfl⟩
  | arr xs =>
    obtain ⟨hall, hmap⟩ := elementSchemas_ok h
    exact ⟨.inr ⟨xs, rfl, hall⟩, hmap⟩
  | _ => simp [schemas] at h

theorem of_schemas {keyword : String} {v : Value} {parts : List Part}
    (h : schemas keyword v = .ok parts) {p : Part} (hp : p ∈ parts) : p.Of v := by
  cases v with
  | obj ms =>
    obtain rfl : [⟨none, .obj ms⟩] = parts := Except.ok.inj h
    rw [List.mem_singleton.mp hp]
    exact .inl ⟨rfl, rfl⟩
  | arr xs =>
    obtain ⟨j, hj, hx⟩ := position_of_elementSchemas h hp
    exact .inr ⟨0 + j, xs, hj, rfl, by rwa [Nat.zero_add]⟩
  | _ => simp [schemas] at h

theorem schemas_isOk {keyword : String} {v : Value} (h : v.IsSchemaList) :
    ∃ parts, schemas keyword v = .ok parts := by
  rcases h with ⟨ms, rfl⟩ | ⟨xs, rfl, hxs⟩
  · exact ⟨_, rfl⟩
  · exact elementSchemas_isOk hxs

theorem strings_ok {keyword : String} {vs : List Value} {ss : List String} :
    strings keyword vs = .ok ss ↔ vs = ss.map .str := by
  induction vs generalizing ss with
  | nil => cases ss <;> simp [strings]
  | cons v vs ih =>
    simp only [strings, Answer.do_ok, string_ok, ih, Answer.pure_eq_ok, Except.ok.injEq]
    cases ss with
    | nil => simp
    | cons s ss =>
      simp only [List.cons.injEq, List.map_cons]
      constructor
      · intro h
        obtain ⟨_, rfl, _, rfl, rfl, rfl⟩ := h
        exact ⟨rfl, rfl⟩
      · intro h
        obtain ⟨rfl, rfl⟩ := h
        exact ⟨s, rfl, ss, rfl, rfl, rfl⟩

end Expect

end Conform
