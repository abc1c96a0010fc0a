import Conform.Checker.Children
import Conform.Proofs.Meaning

/-!
The jobs for the children of a value are those that the meaning of a schema asks for: one for each
child and each node that governs it.
-/
namespace Conform

namespace Governs

variable {node : Members} {i : Nat} {t : Value}

theorem index_of_obj {ms : Members} (hi : node.get? "items" = some (.obj ms)) :
    Governs node (.index i) t ↔ t = .obj ms := by
  constructor
  · intro hg
    cases hg with
    | everyItem hi' => exact Option.some.inj (hi'.symm.trans hi)
    | item hi' => cases hi'.symm.trans hi
    | furtherItem hi' => cases hi'.symm.trans hi
  · intro h
    subst h
    exact .everyItem hi

/-- Beyond the end of a list of schemas the one for additional items counts. -/
theorem index_of_arr {xs : List Value} (hi : node.get? "items" = some (.arr xs)) :
    Governs node (.index i) t ↔ xs[i]? = some t ∨
      (xs.length ≤ i ∧ t.IsSchema ∧ node.get? "additionalItems" = some t) := by
  constructor
  · intro hg
    cases hg with
    | everyItem hi' => cases hi'.symm.trans hi
    | item hi' ht =>
      cases hi'.symm.trans hi
      exact .inl ht
    | furtherItem hi' hle hf =>
      cases hi'.symm.trans hi
      exact .inr ⟨hle, ⟨_, rfl⟩, hf⟩
  · intro h
    rcases h with ht | ⟨hle, ⟨ms, rfl⟩, hf⟩
    · exact .item hi ht
    · exact .furtherItem hi hle hf

theorem not_index (hi : node.get? "items" = none) : ¬ Governs node (.index i) t := by
  intro hg
  cases hg with
  | everyItem hi' => cases hi'.symm.trans hi
  | item hi' => cases hi'.symm.trans hi
  | furtherItem hi' => cases hi'.symm.trans hi

theorem name_iff {name : String} : Governs node (.name name) t ↔
    (∃ ps, node.get? "properties" = some (.obj ps) ∧ Members.get? ps name = some t) ∨
      (∃ source, Names node "patternProperties" source t ∧ Matches source name) ∨
      (¬ Covers node name ∧ t.IsSchema ∧ node.get? "additionalProperties" = some t) := by
  constructor
  · intro hg
    cases hg with
    | property h hp => exact .inl ⟨_, h, hp⟩
    | matched h hm => exact .inr (.inl ⟨_, h, hm⟩)
    | further h hf => exact .inr (.inr ⟨h, ⟨_, rfl⟩, hf⟩)
  · intro h
    rcases h with ⟨ps, h, hp⟩ | ⟨source, h, hm⟩ | ⟨h, ⟨ms, rfl⟩, hf⟩
    · exact .property h hp
    · exact .matched h hm
    · exact .further h hf

end Governs

namespace ChildSchema

variable {node : Members} {t : Value}

theorem mem_singleton {steps : List Token} {w : Value} :
    (∃ c ∈ [(⟨steps, w⟩ : ChildSchema)], c.schema = t) ↔ t = w := by
  simp [eq_comm]

theorem mem_ofMember {name : String} :
    (∃ c ∈ ofMember node name, c.schema = t) ↔ t.IsSchema ∧ node.get? name = some t := by
  unfold ofMember Value.IsSchema
  split
  · rename_i ms h
    rw [mem_singleton, h]
    constructor
    · intro h
      subst h
      exact ⟨⟨ms, rfl⟩, rfl⟩
    · intro h
      obtain ⟨_, ht⟩ := h
      exact (Option.some.inj ht).symm
  · rename_i hno
    constructor
    · intro h
      obtain ⟨c, hc, _⟩ := h
      simp at hc
    · intro h
      obtain ⟨⟨ms, rfl⟩, ht⟩ := h
      exact absurd ht (hno ms)

theorem elementAt?_nat (xs : List Value) (i : Nat) : elementAt? xs i = xs[i]? := by
  have hpos : ¬ (i : Int) < 0 := by omega
  simp only [elementAt?, hpos, ↓reduceIte, Int.toNat_natCast]

/-- The nodes for an element are those that govern it. -/
theorem mem_forElement {i : Nat} {l : List ChildSchema}
    (hitems : ∀ w, node.get? "items" = some w → w.IsSchemaList)
    (h : forElement node (.index i) = .ok l) :
    (∃ c ∈ l, c.schema = t) ↔ Governs node (.index i) t := by
  unfold forElement at h
  -- one schema for all elements, a list of schemas, or none
  split at h
  · rename_i ms hi
    obtain rfl := Except.ok.inj h
    rw [Governs.index_of_obj hi, mem_singleton]
  · rename_i items hno hi
    obtain ⟨xs, rfl, _⟩ : ∃ xs, items = .arr xs ∧ ∀ x ∈ xs, x.IsSchema := by
      rcases hitems items hi with ⟨ms, hms⟩ | hl
      · exact absurd hms (hno ms)
      · exact hl
    simp only [Value.elements?, position, Answer.do_ok, Except.ok.injEq, exists_eq_left',
      elementAt?_nat, Nat.cast_lt] at h
    rw [Governs.index_of_arr hi]
    split at h
    · rename_i hlt
      rw [List.getElem?_eq_getElem hlt] at h ⊢
      obtain rfl := Except.ok.inj h
      have hle : ¬ xs.length ≤ i := by omega
      rw [mem_singleton]
      simp only [Option.some.injEq, hle, false_and, or_false, eq_comm]
    · rename_i hlt
      obtain rfl := Except.ok.inj h
      have hle : xs.length ≤ i := by omega
      rw [mem_ofMember, List.getElem?_eq_none hle]
      simp only [reduceCtorEq, hle, true_and, false_or]
  · rename_i hi
    obtain rfl := Except.ok.inj h
    have hnot := Governs.not_index (i := i) (t := t) hi
    simp only [List.not_mem_nil, false_and, exists_false, hnot]

theorem mem_declared {name : String} :
    (∃ c ∈ declared node name, c.schema = t) ↔
      ∃ ps, node.get? "properties" = some (.obj ps) ∧ Members.get? ps name = some t := by
  unfold declared
  split
  · rename_i ps h
    simp only [h, Option.some.injEq, Value.obj.injEq, exists_eq_left']
    split
    · rename_i s hs
      rw [mem_singleton, hs, Option.some.injEq, eq_comm]
    · rename_i hs
      simp [hs]
  · rename_i hno
    constructor
    · intro h
      obtain ⟨c, hc, _⟩ := h
      simp at hc
    · intro h
      obtain ⟨ps, h, _⟩ := h
      exact absurd h (hno ps)

/-- Searching all patterns finds the nodes of those that match. -/
theorem mem_matching {name : String} {ps : Members} {l : List ChildSchema}
    (h : matching name ps = .ok l) :
    (∃ c ∈ l, c.schema = t) ↔ ∃ source, (source, t) ∈ ps ∧ Matches source name := by
  induction ps generalizing l with
  | nil =>
    obtain rfl : [] = l := Except.ok.inj h
    simp
  | cons m ps ih =>
    obtain ⟨source, schema⟩ := m
    simp only [matching, Answer.do_ok] at h
    obtain ⟨p, hp, matched, hm, found, hfound, h⟩ := h
    -- the pattern is the only one that its source compiles to
    have hmatches : Matches source name ↔ matched = true := by
      constructor
      · intro h
        obtain ⟨q, hq, hs⟩ := h
        obtain rfl : p = q := Except.ok.inj (hp.symm.trans hq)
        exact Except.ok.inj (hm.symm.trans hs)
      · intro h
        subst h
        exact ⟨p, hp, hm⟩
    have hcons : (∃ src, (src, t) ∈ (source, schema) :: ps ∧ Matches src name) ↔
        (t = schema ∧ matched = true) ∨ ∃ src, (src, t) ∈ ps ∧ Matches src name := by
      simp only [List.mem_cons, Prod.mk.injEq, or_and_right, exists_or, and_assoc,
        exists_eq_left, hmatches]
    rw [hcons, ← ih hfound]
    cases matched with
    | true =>
      obtain rfl : _ :: found = l := Except.ok.inj h
      simp [eq_comm]
    | false =>
      obtain rfl : found = l := Except.ok.inj h
      simp

theorem mem_patterned {name : String} {l : List ChildSchema} (h : patterned node name = .ok l) :
    (∃ c ∈ l, c.schema = t) ↔
      ∃ source, Names node "patternProperties" source t ∧ Matches source name := by
  unfold patterned at h
  split at h
  · rename_i ps hps
    simp only [mem_matching h, Names, hps, Option.some.injEq, Value.obj.injEq, exists_eq_left']
  · rename_i hno
    obtain rfl : [] = l := Except.ok.inj h
    constructor
    · intro h
      obtain ⟨c, hc, _⟩ := h
      simp at hc
    · intro h
      obtain ⟨source, ⟨ps, hps, _⟩, _⟩ := h
      exact absurd hps (hno ps)

/-- The nodes for a member are those that govern it. -/
theorem mem_forMember {name : String} {l : List ChildSchema}
    (h : forMember node (.name name) = .ok l) :
    (∃ c ∈ l, c.schema = t) ↔ Governs node (.name name) t := by
  simp only [forMember, Token.text, Answer.do_ok, Answer.map_ok] at h
  obtain ⟨found, ⟨ps, hps, rfl⟩, h⟩ := h
  have hfound (t : Value) : (∃ c ∈ declared node name ++ ps, c.schema = t) ↔
      (∃ qs, node.get? "properties" = some (.obj qs) ∧ Members.get? qs name = some t) ∨
        ∃ source, Names node "patternProperties" source t ∧ Matches source name := by
    rw [← mem_declared, ← mem_patterned hps]
    simp only [List.mem_append, or_and_right, exists_or]
  have hcovers : Covers node name ↔ ∃ t, ∃ c ∈ declared node name ++ ps, c.schema = t := by
    simp only [hfound, exists_or, Covers]
    constructor
    · intro h
      rcases h with ⟨qs, t, h⟩ | ⟨source, t, h⟩
      · exact .inl ⟨t, qs, h⟩
      · exact .inr ⟨t, source, h⟩
    · intro h
      rcases h with ⟨t, qs, h⟩ | ⟨t, source, h⟩
      · exact .inl ⟨qs, t, h⟩
      · exact .inr ⟨source, t, h⟩
  rw [Governs.name_iff, hcovers, ← or_assoc, ← hfound]
  -- additional properties count only where nothing else was found
  cases hempty : (declared node name ++ ps).isEmpty with
  | true =>
    have hnil := List.isEmpty_iff.mp hempty
    rw [hempty] at h
    obtain rfl : ofMember node "additionalProperties" = l := Except.ok.inj h
    rw [mem_ofMember, hnil]
    simp
  | false =>
    rw [hempty] at h
    obtain rfl : declared node name ++ ps = l := Except.ok.inj h
    have hsome : ∃ t, ∃ c ∈ declared node name ++ ps, c.schema = t := by
      obtain ⟨c, hc⟩ := List.exists_mem_of_ne_nil _ (List.isEmpty_eq_false_iff.mp hempty)
      exact ⟨c.schema, c, hc, rfl⟩
    simp only [hsome, not_true_eq_false, false_and, or_false]

end ChildSchema

theorem Kind.classify_ok {v : Value} {kind : Kind} :
    Kind.classify v = .ok kind ↔ Kind.of? v = some kind := by
  unfold Kind.classify
  cases hv : Kind.of? v with
  | some k => simp
  | none => cases v <;> simp

namespace Value

theorem eq_arr_of_kind {v : Value} (h : Kind.of? v = some .array) : ∃ xs, v = .arr xs := by
  cases v with
  | arr xs => exact ⟨xs, rfl⟩
  | real x => cases hx : x.isFinite <;> simp [Kind.of?, hx] at h
  | _ => simp [Kind.of?] at h

theorem eq_obj_of_kind {v : Value} (h : Kind.of? v = some .object) : ∃ ms, v = .obj ms := by
  cases v with
  | obj ms => exact ⟨ms, rfl⟩
  | real x => cases hx : x.isFinite <;> simp [Kind.of?, hx] at h
  | _ => simp [Kind.of?] at h

theorem index_of_mem_children {xs : List Value} {c : Token × Value}
    (h : c ∈ (arr xs).children) : ∃ i : Nat, c.1 = .index i ∧ xs[i]? = some c.2 := by
  obtain ⟨⟨x, i⟩, hx, rfl⟩ := List.mem_map.mp h
  exact ⟨i, rfl, List.mem_zipIdx_iff_getElem?.mp hx⟩

theorem name_of_mem_children {ms : Members} {c : Token × Value} (h : c ∈ (obj ms).children) :
    ∃ name, c.1 = .name name ∧ (name, c.2) ∈ ms := by
  obtain ⟨⟨name, x⟩, hx, rfl⟩ := List.mem_map.mp h
  exact ⟨name, rfl, hx⟩

end Value

namespace Job

variable {kind : Kind} {node : Members}

/-- The jobs for some children are the jobs for each of them. -/
theorem mem_forChildren {cs : List (Token × Value)} {jobs : List Job}
    (h : forChildren kind node cs = .ok jobs) (j : Job) :
    j ∈ jobs ↔ (j.token, j.value) ∈ cs ∧
      ∃ l, ChildSchema.ofKind kind node j.token = .ok l ∧ j.schema ∈ l := by
  induction cs generalizing jobs with
  | nil =>
    obtain rfl : [] = jobs := Except.ok.inj h
    simp
  | cons c cs ih =>
    obtain ⟨token, value⟩ := c
    simp only [forChildren, Answer.do_ok] at h
    obtain ⟨l, hl, rest, hrest, h⟩ := h
    obtain rfl := Except.ok.inj h
    rw [List.mem_append, ih hrest, List.mem_cons, or_and_right]
    refine or_congr ?_ Iff.rfl
    constructor
    · intro hj
      obtain ⟨schema, hschema, rfl⟩ := List.mem_map.mp hj
      exact ⟨rfl, l, hl, hschema⟩
    · intro h
      obtain ⟨hc, l', hl', hschema⟩ := h
      obtain ⟨rfl, rfl⟩ := Prod.mk.inj hc
      obtain rfl := Except.ok.inj (hl.symm.trans hl')
      exact List.mem_map.mpr ⟨j.schema, hschema, rfl⟩

/-- Every child has its schemas once there are jobs. -/
theorem ofKind_ok {cs : List (Token × Value)} {jobs : List Job}
    (h : forChildren kind node cs = .ok jobs) {c : Token × Value} (hc : c ∈ cs) :
    ∃ l, ChildSchema.ofKind kind node c.1 = .ok l := by
  induction cs generalizing jobs with
  | nil => simp at hc
  | cons d cs ih =>
    simp only [forChildren, Answer.do_ok] at h
    obtain ⟨l, hl, rest, hrest, _⟩ := h
    rcases List.mem_cons.mp hc with rfl | hc
    · exact ⟨l, hl⟩
    · exact ih hrest hc

/-- There are jobs for just the children and the nodes that govern them. -/
theorem mem_ofSite {s : Site} {jobs : List Job} {c : Token × Value} {t : Value}
    (hs : s.schema = .obj node) (hk : s.kind = .ok kind) (hkind : kind = .array ∨ kind = .object)
    (hitems : kind = .array → ∀ w, node.get? "items" = some w → w.IsSchemaList)
    (h : ofSite kind s = .ok jobs) :
    (∃ j ∈ jobs, (j.token, j.value) = c ∧ j.schema.schema = t) ↔
      c ∈ s.value.children ∧ Governs node c.1 t := by
  have hjobs : forChildren kind node s.value.children = .ok jobs := by
    simpa [ofSite, Site.node, hs] using h
  -- the lookup for elements and the one for members each have their lemma
  have hgoverns {l : List ChildSchema} (hc : c ∈ s.value.children)
      (hl : ChildSchema.ofKind kind node c.1 = .ok l) :
      (∃ x ∈ l, x.schema = t) ↔ Governs node c.1 t := by
    rcases hkind with rfl | rfl
    · obtain ⟨xs, hv⟩ := Value.eq_arr_of_kind (Kind.classify_ok.mp hk)
      rw [hv] at hc
      obtain ⟨i, hi, _⟩ := Value.index_of_mem_children hc
      rw [hi] at hl ⊢
      exact ChildSchema.mem_forElement (hitems rfl) hl
    · obtain ⟨ms, hv⟩ := Value.eq_obj_of_kind (Kind.classify_ok.mp hk)
      rw [hv] at hc
      obtain ⟨name, hname, _⟩ := Value.name_of_mem_children hc
      rw [hname] at hl ⊢
      exact ChildSchema.mem_forMember hl
  constructor
  · intro h
    obtain ⟨j, hj, rfl, rfl⟩ := h
    obtain ⟨hc, l, hl, hschema⟩ := (mem_forChildren hjobs j).mp hj
    exact ⟨hc, (hgoverns hc hl).mp ⟨j.schema, hschema, rfl⟩⟩
  · intro h
    obtain ⟨hc, hg⟩ := h
    obtain ⟨l, hl⟩ := ofKind_ok hjobs hc
    obtain ⟨schema, hschema, rfl⟩ := (hgoverns hc hl).mpr hg
    exact ⟨⟨c.1, c.2, schema⟩, (mem_forChildren hjobs _).mpr ⟨hc, l, hl, hschema⟩, rfl, rfl⟩

end Job

end Conform
