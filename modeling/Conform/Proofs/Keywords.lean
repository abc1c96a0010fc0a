import Conform.Proofs.Dispatch
import Conform.Proofs.Tests

/-!
Keywords that look at the value alone. Where such a keyword was built for a value of a kind that
it applies to and comes to a verdict, the verdict says whether the keyword holds of the value. One
that quotes numbers comes to a verdict unless it does not hold and its complaint cannot be written.
-/
namespace Conform

namespace Value

theorem eq_str_of_kind {v : Value} (h : Kind.of? v = some .string) : ∃ t, v = .str t := by
  cases v with
  | str t => exact ⟨t, rfl⟩
  | real x => cases hx : x.isFinite <;> simp [Kind.of?, hx] at h
  | _ => simp [Kind.of?] at h

theorem decimal?_of_kind {v : Value} {kind : Kind} (h : Kind.of? v = some kind)
    (hkind : kind ∈ [Kind.integer, Kind.number]) : ∃ d, v.decimal? = some d := by
  cases v with
  | int n => exact ⟨_, rfl⟩
  | real x =>
    cases x with
    | finite d => exact ⟨d, rfl⟩
    | _ => simp [Kind.of?, Real.isFinite] at h
  | _ =>
    simp only [Kind.of?, Option.some.injEq, reduceCtorEq] at h <;> subst h <;> simp at hkind

end Value

namespace Logic

variable {s : Site} {t : Test}

theorem verdict_judgeTest {y : Bool} (hy : (judgeTest t s).outcome.verdict = .ok y) :
    ∃ r, t.finding s = .ok r ∧ (y = true ↔ r = none) := by
  unfold judgeTest at hy
  split at hy
  · simp at hy
  · rename_i hr
    obtain rfl : true = y := by simpa using hy
    exact ⟨none, hr, by simp⟩
  · rename_i d hr
    obtain rfl : false = y := by simpa using hy
    exact ⟨some d, hr, by simp⟩

theorem verdict_judgeTest_error {f : Fault} :
    (judgeTest t s).outcome.verdict = .error f ↔ t.finding s = .error f := by
  unfold judgeTest
  cases t.finding s with
  | error g => simp
  | ok r => cases r <;> simp

end Logic

namespace Keyword

variable {e : Setting} {J : Judge} {s : Site} {node : Members} {kind : Kind} {w : Value} {y : Bool}

/-- A keyword that comes to a verdict says whether it holds. -/
def Judged (e : Setting) (J : Judge) (s : Site) (node : Members) (w : Value) (k : Keyword) :
    Prop :=
  ∀ y, (k.outcome e J s node).verdict = .ok y → (y = true ↔ k.Holds node w s.value)

theorem judged_always {k : Keyword} (hb : k.build node = .ok (.checker .always))
    (hholds : k.Holds node w s.value) : k.Judged e J s node w := by
  intro y hy
  simp only [outcome, hb, Outcome.pass] at hy
  obtain rfl : true = y := Except.ok.inj hy
  simp [hholds]

theorem judged_test {k : Keyword} {t : Test} (hb : k.build node = .ok (asTest t))
    (hholds : ∀ r, t.finding s = .ok r → (r = none ↔ k.Holds node w s.value)) :
    k.Judged e J s node w := by
  intro y hy
  simp only [outcome, hb, asTest] at hy
  obtain ⟨r, hr, hiff⟩ := Logic.verdict_judgeTest hy
  rw [hiff, hholds r hr]

/-- A keyword whose test comes to what the keyword is there for, and fails only where it does not
hold and its complaint cannot be written. -/
def Complains (s : Site) (node : Members) (w : Value) (k : Keyword) : Prop :=
  ∃ t, k.build node = .ok (asTest t) ∧ t.Tells s (k.Holds node w s.value) (k.Unwritten w s.value)

namespace Complains

variable {k : Keyword}

theorem judged (h : k.Complains s node w) : k.Judged e J s node w := by
  obtain ⟨t, hb, ht⟩ := h
  exact judged_test hb fun r hr => ht.none_iff hr

theorem verdict_error (h : k.Complains s node w) {f : Fault} :
    (k.outcome e J s node).verdict = .error f ↔
      f = .unwritable ∧ ¬ k.Holds node w s.value ∧ k.Unwritten w s.value := by
  obtain ⟨t, hb, ht⟩ := h
  simp only [outcome, hb, asTest]
  rw [Logic.run, Logic.verdict_judgeTest_error, ht.error_iff]

end Complains

/-- A limit on a count: what is counted is within it, and it is all that a complaint quotes. -/
theorem complains_count {k : Keyword} {b : Built} {keyword : String} {test : Nat → Test}
    {lower : Bool} {count : Nat} (hb : k.build node = .ok b)
    (hbuilt : ∃ w n, node.get? keyword = some w ∧ w.Counts n ∧ b = asTest (test n))
    (hw : node.get? keyword = some w)
    (htells : ∀ n, (test n).Tells s (Test.within lower n count) (¬ (Value.int n).isWritable))
    (hholds : k.Holds node w s.value ↔ ∀ n, w.Counts n → Test.within lower n count)
    (hunwritten : k.Unwritten w s.value ↔ ∃ n : Nat, w.Counts n ∧ ¬ (Value.int n).isWritable) :
    k.Complains s node w := by
  obtain ⟨w', n, hw', hn, rfl⟩ := hbuilt
  obtain rfl : w = w' := Option.some.inj (hw.symm.trans hw')
  -- a value counts up to one number, whatever form it has
  have hunique {m : Nat} : w.Counts m ↔ n = m := ⟨hn.unique, fun h => h ▸ hn⟩
  refine ⟨_, hb, ?_⟩
  simp only [hholds, hunwritten, hunique, forall_eq', exists_eq_left']
  exact htells n

/-- The exclusive flag is set just where the node says so. -/
theorem complains_bound {k : Keyword} {keyword exclusiveKeyword : String} {lower : Bool}
    {b : Built} (hb : k.build node = .ok b)
    (hbuild : boundBuilder keyword exclusiveKeyword lower node = .ok b)
    (hw : node.get? keyword = some w) (hk : Kind.of? s.value = some kind)
    (hkind : kind ∈ [Kind.integer, Kind.number])
    (hholds : ∀ x limit, s.value.decimal? = some x → w.decimal? = some limit →
      (k.Holds node w s.value ↔ (if lower then limit.le x else x.le limit) ∧
        (node.get? exclusiveKeyword = some (.bool true) →
          if lower then limit.lt x else x.lt limit)))
    (hunwritten : k.Unwritten w s.value ↔ ¬ (s.value.isWritable ∧ w.isWritable)) :
    k.Complains s node w := by
  obtain ⟨w', limit, exclusive, hw', hlimit, hexclusive, rfl⟩ := boundBuilder_ok.mp hbuild
  obtain rfl : w = w' := Option.some.inj (hw.symm.trans hw')
  obtain ⟨x, hx⟩ := Value.decimal?_of_kind hk hkind
  have hflag : exclusive = true ↔ node.get? exclusiveKeyword = some (.bool true) :=
    (ownOr_eq_bool.mp hexclusive).2
  refine ⟨_, hb, ?_⟩
  rw [hholds x limit hx hlimit, hunwritten, ← hflag, ← Test.boundHolds_iff]
  exact Test.tells_bound hx hlimit

theorem judged_additionalItems {b : Built} (hb : build .additionalItems node = .ok b)
    (hw : node.get? "additionalItems" = some w) (hk : Kind.of? s.value = some .array) :
    Judged e J s node w .additionalItems := by
  obtain ⟨w', hw', _, h⟩ := additionalItemsBuilder_ok.mp hb
  obtain rfl : w = w' := Option.some.inj (hw.symm.trans hw')
  rcases h with ⟨xs, rfl, hitems, rfl⟩ | ⟨hno, rfl⟩
  · obtain ⟨ys, hv⟩ := Value.eq_arr_of_kind hk
    apply judged_test hb
    intro r hr
    rw [(Test.tells_tupleLength hv).none_iff hr]
    simp only [Holds, hitems, hv, Option.some.injEq, Value.arr.injEq]
    constructor
    · intro hle _ _ _ hx hy
      rw [← hx, ← hy]
      exact hle
    · intro h
      exact h xs ys trivial rfl rfl
  · apply judged_always hb
    intro xs ys hw hitems
    exact absurd hitems (hno xs hw)

theorem search_patterns_iff {sources : List String} {ps : List Pattern} {name : String}
    (h : patterns sources = .ok ps) :
    (∃ p ∈ ps, p.search name = .ok true) ↔ ∃ source ∈ sources, Matches source name := by
  -- patterns and sources correspond one to one, so the induction is on the correspondence
  have hall := patterns_ok.mp h
  clear h
  induction hall with
  | nil => simp
  | @cons source p sources ps hp hrest ih =>
    have hhead : p.search name = .ok true ↔ Matches source name := by
      constructor
      · intro hmatch
        exact ⟨p, hp, hmatch⟩
      · intro h
        obtain ⟨q, hq, hmatch⟩ := h
        obtain rfl : p = q := Except.ok.inj (hp.symm.trans hq)
        exact hmatch
    simp only [List.mem_cons, exists_eq_or_imp, ih, hhead]

/-- The names that a closed object may have are those that the node covers. -/
theorem covers_iff {declared sources : Members} {ps : List Pattern} {name : String}
    (hd : ownOr node "properties" (.obj []) = .obj declared)
    (hs : ownOr node "patternProperties" (.obj []) = .obj sources)
    (hp : patterns (Members.keys sources) = .ok ps) :
    Covers node name ↔
      name ∈ Members.keys declared ∨ ∃ p ∈ ps, p.search name = .ok true := by
  refine or_congr ?_ ?_
  · rw [← List.contains_iff_mem, contains_keys]
    rcases ownOr_eq_obj.mp hd with hprops | ⟨hprops, rfl⟩
    · simp [hprops]
    · have hnone : Members.get? [] name = none := rfl
      simp [hprops, hnone]
  · rw [search_patterns_iff hp]
    unfold Names Members.keys
    rcases ownOr_eq_obj.mp hs with hprops | ⟨hprops, rfl⟩
    · simp [hprops]
    · simp [hprops]

theorem judged_additionalProperties {b : Built}
    (hb : build .additionalProperties node = .ok b)
    (hw : node.get? "additionalProperties" = some w) (hk : Kind.of? s.value = some .object) :
    Judged e J s node w .additionalProperties := by
  obtain ⟨w', hw', h⟩ := additionalPropertiesBuilder_ok.mp hb
  obtain rfl : w = w' := Option.some.inj (hw.symm.trans hw')
  rcases h with ⟨hs, rfl⟩ | ⟨rfl, declared, sources, ps, hd, hs, hp, rfl⟩
  · apply judged_always hb
    intro ms hw
    rcases hs with ⟨ns, rfl⟩ | rfl
    · cases hw
    · cases hw
  · obtain ⟨ms, hv⟩ := Value.eq_obj_of_kind hk
    apply judged_test hb
    intro r hr
    have hholds : Holds node .additionalProperties (.bool false) s.value ↔
        ∀ m ∈ ms, Covers node m.1 := by
      simp only [Holds, hv, Value.obj.injEq]
      constructor
      · intro h
        exact h ms trivial rfl
      · intro h ns _ hns
        rw [← hns]
        exact h
    simp only [hholds, Test.closed_iff hv hr, covers_iff hd hs hp]

theorem complains_divisibleBy {b : Built} (hb : build .divisibleBy node = .ok b)
    (hw : node.get? "divisibleBy" = some w) (hk : Kind.of? s.value = some kind)
    (hkind : kind ∈ [Kind.integer, Kind.number]) : Complains s node w .divisibleBy := by
  obtain ⟨w', unit, hw', hunit, _, rfl⟩ := divisibleByBuilder_ok.mp hb
  obtain rfl : w = w' := Option.some.inj (hw.symm.trans hw')
  obtain ⟨x, hx⟩ := Value.decimal?_of_kind hk hkind
  refine ⟨_, hb, ?_⟩
  have hholds : Holds node .divisibleBy w s.value ↔ x.isMultipleOf unit := by
    simp [Holds, hx, hunit]
  rw [hholds]
  exact Test.tells_multiple hx hunit

theorem complains_enum {b : Built} (hb : build .enum node = .ok b)
    (hw : node.get? "enum" = some w) : Complains s node w .enum := by
  obtain ⟨xs, hw', _, rfl⟩ := enumBuilder_ok.mp hb
  obtain rfl : w = .arr xs := Option.some.inj (hw.symm.trans hw')
  exact ⟨_, hb, Test.tells_oneOf⟩

theorem ofName?_name (f : Format) : Format.ofName? f.name = some f := by
  cases f <;> decide

/-- A format that is not known by name asks for nothing. -/
theorem judged_format {b : Built} (hb : build .format node = .ok b)
    (hw : node.get? "format" = some w) (hk : s.kind = .ok kind) :
    Judged e J s node w .format := by
  obtain ⟨name, hw', h⟩ := formatBuilder_ok.mp hb
  obtain rfl : w = .str name := Option.some.inj (hw.symm.trans hw')
  have hkind := Kind.classify_ok.mp hk
  rcases h with ⟨f, hf, rfl⟩ | ⟨hf, rfl⟩
  · apply judged_test hb
    intro r hr
    rw [Test.format_iff hk hr]
    simp only [Holds, hkind, Option.some.injEq, exists_eq_right', Value.str.injEq]
    constructor
    · intro h g heq hg
      -- names tell formats apart
      subst heq
      rw [ofName?_name] at hf
      obtain rfl := Option.some.inj hf
      exact h hg
    · intro h hg
      have hname : f.name = name := by
        have hfound := List.find?_some hf
        simpa using hfound
      exact h f hname.symm hg
  · intro y hy
    simp only [outcome, hb] at hy
    rw [Step.outcome_eq (Logic.unknownFormat_onto e J _ name s)] at hy
    obtain rfl : true = y := Except.ok.inj hy
    simp only [Holds, Value.str.injEq, true_iff]
    intro g h
    obtain rfl := h
    rw [ofName?_name] at hf
    cases hf

theorem judged_pattern {b : Built} (hb : build .pattern node = .ok b)
    (hw : node.get? "pattern" = some w) (hk : Kind.of? s.value = some .string) :
    Judged e J s node w .pattern := by
  obtain ⟨source, p, hw', hp, rfl⟩ := patternBuilder_ok.mp hb
  obtain rfl : w = .str source := Option.some.inj (hw.symm.trans hw')
  obtain ⟨t, hv⟩ := Value.eq_str_of_kind hk
  apply judged_test hb
  intro r hr
  rw [Test.pattern_iff hv hr]
  simp only [Holds, hv, Value.str.injEq]
  constructor
  · intro hmatch _ _ hsource ht
    rw [← hsource, ← ht]
    exact ⟨p, hp, hmatch⟩
  · intro h
    obtain ⟨q, hq, hmatch⟩ := h source t rfl rfl
    obtain rfl : p = q := Except.ok.inj (hp.symm.trans hq)
    exact hmatch

theorem judged_properties {b : Built} (hb : build .properties node = .ok b)
    (hw : node.get? "properties" = some w) (hk : Kind.of? s.value = some .object) :
    Judged e J s node w .properties := by
  obtain ⟨l, names, hw', hn, hbuilt⟩ := propertiesBuilder_ok.mp hb
  obtain rfl : w = .obj (Members.ofSchemas l) := Option.some.inj (hw.symm.trans hw')
  obtain ⟨ms, hv⟩ := Value.eq_obj_of_kind hk
  have hholds : Holds node .properties (.obj (Members.ofSchemas l)) s.value ↔
      ∀ n ∈ names, Members.has ms n := by
    -- the names that are required, read off the schemas of the properties
    have hmem (n : String) : n ∈ names ↔ ∃ ps, (n, Value.obj ps) ∈ Members.ofSchemas l ∧
        Members.get? ps "required" = some (.bool true) := by
      rw [(requiredNames_ok hn).2]
      simp [Members.ofSchemas]
    simp only [Holds, hv, Value.obj.injEq, hmem]
    constructor
    · intro h n heq
      obtain ⟨ps, hps, hr⟩ := heq
      exact h _ _ rfl rfl n ps hps hr
    · intro h ps ns heq heq' n t hps hr
      obtain rfl := heq
      obtain rfl := heq'
      exact h n ⟨t, hps, hr⟩
  cases hempty : names.isEmpty with
  | true =>
    rw [hempty] at hbuilt
    apply judged_always (hb.trans (congrArg Except.ok hbuilt))
    rw [hholds, List.isEmpty_iff.mp hempty]
    simp
  | false =>
    rw [hempty] at hbuilt
    apply judged_test (hb.trans (congrArg Except.ok hbuilt))
    intro r hr
    rw [(Test.tells_required hv).none_iff hr, hholds]

theorem judged_uniqueItems {b : Built} (hb : build .uniqueItems node = .ok b)
    (hw : node.get? "uniqueItems" = some w) (hk : Kind.of? s.value = some .array) :
    Judged e J s node w .uniqueItems := by
  obtain ⟨wanted, hw', hbuilt⟩ := uniqueItemsBuilder_ok.mp hb
  obtain rfl : w = .bool wanted := Option.some.inj (hw.symm.trans hw')
  obtain ⟨xs, hv⟩ := Value.eq_arr_of_kind hk
  cases wanted with
  | true =>
    apply judged_test (hb.trans (congrArg Except.ok hbuilt))
    intro r hr
    rw [(Test.tells_distinct hv).none_iff hr]
    simp [Holds, hv]
  | false =>
    apply judged_always (hb.trans (congrArg Except.ok hbuilt))
    intro xs hw
    cases hw

/-- The keywords that judge no other node. -/
def isPlain : Keyword → Bool
  | .dependencies | .disallow | .extending | .type | .reference => false
  | _ => true

/-- The keywords whose complaints quote numbers that the schema or the value has. -/
def isQuoting : Keyword → Bool
  | .divisibleBy | .enum | .maximum | .minimum | .maxItems | .minItems | .maxLength
  | .minLength => true
  | _ => false

theorem isQuoting_of_unwritten {k : Keyword} {v : Value} (h : k.Unwritten w v) : k.isQuoting := by
  cases k <;> first | rfl | exact h.elim

theorem complains_of_isQuoting {k : Keyword} {b : Built} (hq : k.isQuoting)
    (hb : k.build node = .ok b) (hw : node.get? k.name = some w) (hk : s.kind = .ok kind)
    (hkind : kind ∈ k.kinds) : k.Complains s node w := by
  have hof := Kind.classify_ok.mp hk
  -- a keyword for one kind of values pins down the kind of the value
  have hone {kind' : Kind} (h : kind ∈ [kind']) : Kind.of? s.value = some kind' := by
    rw [hof, List.mem_singleton.mp h]
  cases k with
  | divisibleBy => exact complains_divisibleBy hb hw hof hkind
  | enum => exact complains_enum hb hw
  | maximum | minimum =>
    refine complains_bound hb hb hw hof hkind ?_ Iff.rfl
    intro x limit hx hlimit
    simp [Holds, hx, hlimit]
  | maxItems | minItems =>
    obtain ⟨xs, hv⟩ := Value.eq_arr_of_kind (hone hkind)
    refine complains_count hb (itemCountBuilder_ok.mp hb) hw
      (fun _ => Test.tells_itemCount hv) ?_ Iff.rfl
    simp [Holds, hv, Test.within_iff]
  | maxLength | minLength =>
    obtain ⟨t, hv⟩ := Value.eq_str_of_kind (hone hkind)
    refine complains_count hb (textLengthBuilder_ok.mp hb) hw
      (fun _ => Test.tells_textLength hv) ?_ Iff.rfl
    simp [Holds, hv, Test.within_iff]
  | _ => cases hq

/-- The verdict of a plain keyword is whether it holds. -/
theorem judged_plain {k : Keyword} {b : Built} (hplain : k.isPlain) (hb : k.build node = .ok b)
    (hw : node.get? k.name = some w) (hk : s.kind = .ok kind) (hkind : kind ∈ k.kinds) :
    k.Judged e J s node w := by
  have hof := Kind.classify_ok.mp hk
  -- a keyword for one kind of values pins down the kind of the value
  have hone {kind' : Kind} (h : kind ∈ [kind']) : Kind.of? s.value = some kind' := by
    rw [hof, List.mem_singleton.mp h]
  cases k with
  | additionalItems => exact judged_additionalItems hb hw (hone hkind)
  | additionalProperties => exact judged_additionalProperties hb hw (hone hkind)
  | format => exact judged_format hb hw hk
  | items =>
    obtain ⟨_, _, _, rfl⟩ := itemsBuilder_ok.mp hb
    exact judged_always hb trivial
  | divisibleBy | enum | maximum | minimum | maxItems | minItems | maxLength | minLength =>
    exact (complains_of_isQuoting rfl hb hw hk hkind).judged
  | pattern => exact judged_pattern hb hw (hone hkind)
  | patternProperties =>
    obtain ⟨_, _, _, _, rfl⟩ := patternPropertiesBuilder_ok.mp hb
    exact judged_always hb trivial
  | properties => exact judged_properties hb hw (hone hkind)
  | uniqueItems => exact judged_uniqueItems hb hw (hone hkind)
  | _ => cases hplain

end Keyword

end Conform
