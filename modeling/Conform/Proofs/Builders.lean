import Conform.Proofs.Expectations
import Mathlib.Data.List.Forall2

/-!
What each builder makes of a node: the test or the logic that it hands back holds the data of the
value of its keyword.
-/
namespace Conform

namespace Keyword

theorem own_ok {node : Members} {keyword : String} {v : Value} :
    own node keyword = .ok v ↔ node.get? keyword = some v := by
  unfold own
  cases node.get? keyword <;> simp

theorem ownOr_eq_bool {node : Members} {keyword : String} {b : Bool} :
    ownOr node keyword (.bool false) = .bool b ↔
      (∀ x, node.get? keyword = some x → x.IsBool) ∧
        (b = true ↔ node.get? keyword = some (.bool true)) := by
  unfold ownOr Value.IsBool
  cases h : node.get? keyword with
  | none => cases b <;> simp
  | some x =>
    cases x with
    | bool c => cases b <;> cases c <;> simp
    | _ => simp

theorem ownOr_eq_obj {node ms : Members} {keyword : String} :
    ownOr node keyword (.obj []) = .obj ms ↔
      node.get? keyword = some (.obj ms) ∨ (node.get? keyword = none ∧ ms = []) := by
  unfold ownOr
  cases node.get? keyword with
  | none => simp [eq_comm]
  | some x => simp

theorem itemCountBuilder_ok {keyword : String} {lower : Bool} {node : Members} {b : Built} :
    itemCountBuilder keyword lower node = .ok b ↔
      ∃ w n, node.get? keyword = some w ∧ w.Counts n ∧
        b = asTest (.itemCount keyword n lower) := by
  simp only [itemCountBuilder, Answer.do_ok, own_ok, Expect.count_ok, Answer.pure_eq_ok,
    Except.ok.injEq, eq_comm (b := b), exists_and_left]

theorem textLengthBuilder_ok {keyword : String} {lower : Bool} {node : Members} {b : Built} :
    textLengthBuilder keyword lower node = .ok b ↔
      ∃ w n, node.get? keyword = some w ∧ w.Counts n ∧
        b = asTest (.textLength keyword n lower) := by
  simp only [textLengthBuilder, Answer.do_ok, own_ok, Expect.count_ok, Answer.pure_eq_ok,
    Except.ok.injEq, eq_comm (b := b), exists_and_left]

theorem boundBuilder_ok {keyword exclusiveKeyword : String} {lower : Bool} {node : Members}
    {b : Built} :
    boundBuilder keyword exclusiveKeyword lower node = .ok b ↔
      ∃ w d exclusive, node.get? keyword = some w ∧ w.decimal? = some d ∧
        ownOr node exclusiveKeyword (.bool false) = .bool exclusive ∧
        b = asTest (.bound keyword w exclusive lower) := by
  simp only [boundBuilder, Answer.do_ok, own_ok, Expect.number_ok, Expect.boolean_ok,
    Answer.pure_eq_ok, Except.ok.injEq]
  constructor
  · intro h
    obtain ⟨w, hw, _, ⟨rfl, d, hd⟩, exclusive, he, rfl⟩ := h
    exact ⟨_, d, exclusive, hw, hd, he, rfl⟩
  · intro h
    obtain ⟨w, d, exclusive, hw, hd, he, rfl⟩ := h
    exact ⟨w, hw, w, ⟨rfl, d, hd⟩, exclusive, he, rfl⟩

theorem isPositive_iff {w : Value} {d : Decimal} (h : w.decimal? = some d) :
    isPositive w = d.isPositive := by
  cases w with
  | int n =>
    obtain rfl : Decimal.ofInt n = d := Option.some.inj h
    -- an integer is compared with zero, a number by sign and digits
    simp only [isPositive, Decimal.isPositive, Decimal.ofInt]
    rw [Bool.eq_iff_iff]
    simp only [decide_eq_true_eq, Bool.and_eq_true, Bool.not_eq_true', decide_eq_false_iff_not,
      bne_iff_ne, ne_eq, Int.natAbs_eq_zero]
    omega
  | real x =>
    cases x with
    | finite c =>
      obtain rfl : c = d := Option.some.inj h
      rfl
    | _ => simp [Value.decimal?] at h
  | _ => simp [Value.decimal?] at h

theorem divisibleByBuilder_ok {node : Members} {b : Built} :
    divisibleByBuilder node = .ok b ↔
      ∃ w d, node.get? "divisibleBy" = some w ∧ w.decimal? = some d ∧ d.isPositive ∧
        b = asTest (.multiple w) := by
  simp only [divisibleByBuilder, Answer.do_ok, own_ok, Expect.number_ok]
  constructor
  · intro h
    obtain ⟨w, hw, _, ⟨rfl, d, hd⟩, h⟩ := h
    rw [isPositive_iff hd] at h
    cases hp : d.isPositive with
    | false => simp [hp] at h
    | true =>
      simp only [hp, Bool.not_true, Bool.false_eq_true, ↓reduceIte, Answer.pure_eq_ok,
        Except.ok.injEq] at h
      exact ⟨_, d, hw, hd, hp, h.symm⟩
  · intro h
    obtain ⟨w, d, hw, hd, hp, rfl⟩ := h
    refine ⟨w, hw, w, ⟨rfl, d, hd⟩, ?_⟩
    simp [isPositive_iff hd, hp]

theorem uniqueItemsBuilder_ok {node : Members} {b : Built} :
    uniqueItemsBuilder node = .ok b ↔
      ∃ wanted, node.get? "uniqueItems" = some (.bool wanted) ∧
        b = if wanted then asTest .distinct else .checker .always := by
  simp only [uniqueItemsBuilder, Answer.do_ok, own_ok, Expect.boolean_ok, Answer.pure_eq_ok,
    Except.ok.injEq]
  constructor
  · intro h
    obtain ⟨_, hw, wanted, rfl, rfl⟩ := h
    exact ⟨wanted, hw, rfl⟩
  · intro h
    obtain ⟨wanted, hw, rfl⟩ := h
    exact ⟨_, hw, wanted, rfl, rfl⟩

theorem itemsBuilder_ok {node : Members} {b : Built} :
    itemsBuilder node = .ok b ↔
      ∃ w, node.get? "items" = some w ∧ w.IsSchemaList ∧ b = .checker .always := by
  simp only [itemsBuilder, Answer.do_ok, own_ok, Answer.pure_eq_ok, Except.ok.injEq]
  constructor
  · intro h
    obtain ⟨w, hw, parts, hp, rfl⟩ := h
    exact ⟨w, hw, (Expect.schemas_ok hp).1, rfl⟩
  · intro h
    obtain ⟨w, hw, hl, rfl⟩ := h
    obtain ⟨parts, hp⟩ := Expect.schemas_isOk hl
    exact ⟨w, hw, parts, hp, rfl⟩

theorem switch_ok {keyword : String} {w : Value} {more : Bool} :
    switch keyword w = .ok more ↔ w = .bool more ∨ (w.IsSchema ∧ more = true) := by
  cases w <;> simp [switch, Value.IsSchema, eq_comm]

theorem additionalItemsBuilder_ok {node : Members} {b : Built} :
    additionalItemsBuilder node = .ok b ↔
      ∃ w, node.get? "additionalItems" = some w ∧ (w.IsBool ∨ w.IsSchema) ∧
        ((∃ xs, w = .bool false ∧ node.get? "items" = some (.arr xs) ∧
            b = asTest (.tupleLength xs.length)) ∨
          ((∀ xs, w = .bool false → node.get? "items" ≠ some (.arr xs)) ∧
            b = .checker .always)) := by
  simp only [additionalItemsBuilder, Answer.do_ok, own_ok, switch_ok]
  constructor
  · intro h
    obtain ⟨w, hw, more, hm, h⟩ := h
    refine ⟨w, hw, hm.imp (fun h => ⟨more, h⟩) And.left, ?_⟩
    split at h
    · rename_i xs hi
      rcases hm with rfl | ⟨_, hm⟩
      · exact .inl ⟨xs, rfl, hi, (Except.ok.inj h).symm⟩
      · cases hm
    · rename_i hno
      refine .inr ⟨?_, (Except.ok.inj h).symm⟩
      intro xs h hi
      obtain rfl := h
      rcases hm with hm | ⟨⟨ms, hm⟩, _⟩
      · exact hno xs (Value.bool.inj hm).symm hi
      · cases hm
  · intro h
    obtain ⟨w, hw, hs, ⟨xs, rfl, hi, rfl⟩ | ⟨hno, rfl⟩⟩ := h
    · exact ⟨_, hw, false, .inl rfl, by rw [hi]; rfl⟩
    -- not both closed and behind a list, so nothing is tested
    · rcases hs with ⟨more, rfl⟩ | hs
      · refine ⟨_, hw, more, .inl rfl, ?_⟩
        split
        · rename_i xs hi
          exact absurd hi (hno xs rfl)
        · rfl
      · exact ⟨w, hw, true, .inr ⟨hs, rfl⟩, rfl⟩

theorem pattern?_ok {keyword source : String} {p : Pattern} :
    pattern? keyword source = .ok p ↔ Pattern.compile source = .ok p := by
  unfold pattern?
  cases Pattern.compile source with
  | ok q => simp
  | error f => cases f <;> simp

theorem patternBuilder_ok {node : Members} {b : Built} :
    patternBuilder node = .ok b ↔
      ∃ source p, node.get? "pattern" = some (.str source) ∧ Pattern.compile source = .ok p ∧
        b = asTest (.pattern p) := by
  simp only [patternBuilder, Answer.do_ok, own_ok, Expect.string_ok, pattern?_ok,
    Answer.pure_eq_ok, Except.ok.injEq]
  constructor
  · intro h
    obtain ⟨_, hw, source, rfl, p, hp, rfl⟩ := h
    exact ⟨source, p, hw, hp, rfl⟩
  · intro h
    obtain ⟨source, p, hw, hp, rfl⟩ := h
    exact ⟨_, hw, source, rfl, p, hp, rfl⟩

theorem patterns_ok {sources : List String} {ps : List Pattern} :
    patterns sources = .ok ps ↔
      List.Forall₂ (fun source p => Pattern.compile source = .ok p) sources ps := by
  induction sources generalizing ps with
  | nil => cases ps <;> simp [patterns]
  | cons source sources ih =>
    have hcons : patterns (source :: sources) = (do
        let p ← pattern? "patternProperties" source
        let rest ← patterns sources
        return p :: rest) := List.mapM_cons
    simp only [hcons, Answer.do_ok, pattern?_ok, ih, Answer.pure_eq_ok, Except.ok.injEq]
    constructor
    · intro h
      obtain ⟨p, hp, rest, hrest, rfl⟩ := h
      exact .cons hp hrest
    · intro h
      rcases h with _ | ⟨hp, hrest⟩
      exact ⟨_, hp, _, hrest, rfl⟩

theorem patterns_isOk {sources : List String} (h : ∀ s ∈ sources, Value.IsPattern s) :
    ∃ ps, patterns sources = .ok ps := by
  induction sources with
  | nil => exact ⟨[], rfl⟩
  | cons source sources ih =>
    obtain ⟨⟨p, hp⟩, hrest⟩ := List.forall_mem_cons.mp h
    obtain ⟨ps, hps⟩ := ih hrest
    exact ⟨p :: ps, patterns_ok.mpr (.cons hp (patterns_ok.mp hps))⟩

theorem isPattern_of_patterns {sources : List String} {ps : List Pattern}
    (h : patterns sources = .ok ps) : ∀ s ∈ sources, Value.IsPattern s := by
  intro s hs
  have hall := patterns_ok.mp h
  induction hall with
  | nil => simp at hs
  | cons hp hrest ih =>
    rcases List.mem_cons.mp hs with rfl | hs
    · exact ⟨_, hp⟩
    · exact ih (patterns_ok.mpr hrest) hs

theorem exists_source_of_mem {sources : List String} {ps : List Pattern} {p : Pattern}
    (h : patterns sources = .ok ps) (hp : p ∈ ps) :
    ∃ source ∈ sources, Pattern.compile source = .ok p := by
  have hall := patterns_ok.mp h
  clear h
  induction hall with
  | nil => simp at hp
  | cons hcompile _ ih =>
    rcases List.mem_cons.mp hp with rfl | hp
    · exact ⟨_, List.mem_cons_self, hcompile⟩
    · obtain ⟨source, hsource, h⟩ := ih hp
      exact ⟨source, List.mem_cons_of_mem _ hsource, h⟩

/-- The names that some members require are those whose flag is set; no flag counts as unset. -/
theorem requiredNames_ok {l : List (String × Members)} {names : List String}
    (h : requiredNames l = .ok names) :
    (∀ x ∈ l, ∀ r, x.2.get? "required" = some r → r.IsBool) ∧
      ∀ n, n ∈ names ↔ ∃ ms, (n, ms) ∈ l ∧ ms.get? "required" = some (.bool true) := by
  induction l generalizing names with
  | nil =>
    obtain rfl : [] = names := Except.ok.inj h
    simp
  | cons x l ih =>
    obtain ⟨name, ms⟩ := x
    simp only [requiredNames, Answer.do_ok, Expect.boolean_ok, ownOr_eq_bool] at h
    obtain ⟨wanted, ⟨hb, hw⟩, rest, hrest, h⟩ := h
    obtain ⟨hall, hiff⟩ := ih hrest
    refine ⟨List.forall_mem_cons.mpr ⟨hb, hall⟩, ?_⟩
    intro n
    -- a name is required by the first member or by a later one
    have hmem : (∃ ps, (n, ps) ∈ (name, ms) :: l ∧ ps.get? "required" = some (.bool true)) ↔
        (n = name ∧ wanted = true) ∨ n ∈ rest := by
      simp only [List.mem_cons, Prod.mk.injEq, hiff, hw]
      constructor
      · intro h
        obtain ⟨ps, ⟨rfl, rfl⟩ | hps, hr⟩ := h
        · exact .inl ⟨rfl, hr⟩
        · exact .inr ⟨ps, hps, hr⟩
      · intro h
        rcases h with ⟨rfl, hr⟩ | ⟨ps, hps, hr⟩
        · exact ⟨ms, .inl ⟨rfl, rfl⟩, hr⟩
        · exact ⟨ps, .inr hps, hr⟩
    rw [hmem]
    cases wanted with
    | true =>
      obtain rfl : name :: rest = names := Except.ok.inj h
      simp
    | false =>
      obtain rfl : rest = names := Except.ok.inj h
      simp

theorem requiredNames_isOk {l : List (String × Members)}
    (h : ∀ x ∈ l, ∀ r, x.2.get? "required" = some r → r.IsBool) :
    ∃ names, requiredNames l = .ok names := by
  induction l with
  | nil => exact ⟨[], rfl⟩
  | cons x l ih =>
    obtain ⟨name, ms⟩ := x
    obtain ⟨hx, hl⟩ := List.forall_mem_cons.mp h
    obtain ⟨names, hnames⟩ := ih hl
    obtain ⟨wanted, hw⟩ : ∃ wanted, ownOr ms "required" (.bool false) = .bool wanted := by
      unfold ownOr
      cases hr : Members.get? ms "required" with
      | none => exact ⟨false, rfl⟩
      | some r => exact hx r hr
    exact ⟨_, by rw [requiredNames, hw, hnames]; rfl⟩

theorem propertiesBuilder_ok {node : Members} {b : Built} :
    propertiesBuilder node = .ok b ↔
      ∃ l names, node.get? "properties" = some (.obj (Members.ofSchemas l)) ∧
        requiredNames l = .ok names ∧
        b = if names.isEmpty then .checker .always else asTest (.required names) := by
  simp only [propertiesBuilder, Answer.do_ok, own_ok, Expect.schemaMap_ok, Answer.pure_eq_ok,
    Except.ok.injEq]
  constructor
  · intro h
    obtain ⟨_, hw, l, rfl, names, hn, rfl⟩ := h
    exact ⟨l, names, hw, hn, rfl⟩
  · intro h
    obtain ⟨l, names, hw, hn, rfl⟩ := h
    exact ⟨_, hw, l, rfl, names, hn, rfl⟩

theorem patternPropertiesBuilder_ok {node : Members} {b : Built} :
    patternPropertiesBuilder node = .ok b ↔
      ∃ l ps, node.get? "patternProperties" = some (.obj (Members.ofSchemas l)) ∧
        patterns (l.map (·.1)) = .ok ps ∧ b = .checker .always := by
  simp only [patternPropertiesBuilder, Answer.do_ok, own_ok, Expect.schemaMap_ok,
    Answer.pure_eq_ok, Except.ok.injEq]
  constructor
  · intro h
    obtain ⟨_, hw, l, rfl, ps, hp, rfl⟩ := h
    exact ⟨l, ps, hw, hp, rfl⟩
  · intro h
    obtain ⟨l, ps, hw, hp, rfl⟩ := h
    exact ⟨_, hw, l, rfl, ps, hp, rfl⟩

theorem additionalPropertiesBuilder_ok {node : Members} {b : Built} :
    additionalPropertiesBuilder node = .ok b ↔
      ∃ w, node.get? "additionalProperties" = some w ∧
        ((w.IsSchema ∨ w = .bool true) ∧ b = .checker .always ∨
          w = .bool false ∧ ∃ declared sources ps,
            ownOr node "properties" (.obj []) = .obj declared ∧
            ownOr node "patternProperties" (.obj []) = .obj sources ∧
            patterns (Members.keys sources) = .ok ps ∧
            b = asTest (.closed (Members.keys declared) ps)) := by
  simp only [additionalPropertiesBuilder, Answer.do_ok, own_ok, switch_ok]
  constructor
  · intro h
    obtain ⟨w, hw, more, hm, h⟩ := h
    refine ⟨w, hw, ?_⟩
    cases more with
    | true => exact .inl ⟨hm.symm.imp And.left id, (Except.ok.inj h).symm⟩
    | false =>
      obtain rfl : w = .bool false := hm.elim id fun h => absurd h.2 Bool.false_ne_true
      refine .inr ⟨rfl, ?_⟩
      simp only [Bool.false_eq_true, ↓reduceIte] at h
      split at h
      · rename_i declared sources hd hs
        obtain ⟨ps, hp, h⟩ := Answer.do_ok.mp h
        exact ⟨declared, sources, ps, hd, hs, hp, (Except.ok.inj h).symm⟩
      · simp at h
  · intro h
    obtain ⟨w, hw, ⟨hs, rfl⟩ | ⟨rfl, declared, sources, ps, hd, hs, hp, rfl⟩⟩ := h
    · exact ⟨w, hw, true, hs.symm.imp id fun h => ⟨h, rfl⟩, rfl⟩
    · refine ⟨_, hw, false, .inl rfl, ?_⟩
      simp only [Bool.false_eq_true, ↓reduceIte, hd, hs, hp]
      rfl

theorem enumBuilder_ok {node : Members} {b : Built} :
    enumBuilder node = .ok b ↔
      ∃ xs, node.get? "enum" = some (.arr xs) ∧ xs ≠ [] ∧ b = asTest (.oneOf xs) := by
  simp only [enumBuilder, Answer.do_ok, own_ok]
  constructor
  · intro h
    obtain ⟨w, hw, h⟩ := h
    split at h
    · simp at h
    · rename_i xs hne
      exact ⟨xs, hw, hne, (Except.ok.inj h).symm⟩
    · simp at h
  · intro h
    obtain ⟨xs, hw, hne, rfl⟩ := h
    refine ⟨_, hw, ?_⟩
    cases xs with
    | nil => exact absurd rfl hne
    | cons x xs => rfl

theorem extendingBuilder_ok {node : Members} {b : Built} :
    extendingBuilder node = .ok b ↔
      ∃ w parts, node.get? "extends" = some w ∧ Expect.schemas "extends" w = .ok parts ∧
        b = .logic (.extending parts) := by
  simp only [extendingBuilder, Answer.do_ok, own_ok, Answer.pure_eq_ok, Except.ok.injEq,
    eq_comm (b := b), exists_and_left]

theorem referenceBuilder_ok {node : Members} {b : Built} :
    referenceBuilder node = .ok b ↔
      ∃ ref, node.get? "$ref" = some (.str ref) ∧ b = .logic (.reference ref) := by
  simp only [referenceBuilder, Answer.do_ok, own_ok, Expect.string_ok, Answer.pure_eq_ok,
    Except.ok.injEq]
  constructor
  · intro h
    obtain ⟨_, hw, ref, rfl, rfl⟩ := h
    exact ⟨ref, hw, rfl⟩
  · intro h
    obtain ⟨ref, hw, rfl⟩ := h
    exact ⟨_, hw, ref, rfl, rfl⟩

theorem formatBuilder_ok {node : Members} {b : Built} :
    formatBuilder node = .ok b ↔
      ∃ name, node.get? "format" = some (.str name) ∧
        ((∃ f, Format.ofName? name = some f ∧ b = asTest (.format f)) ∨
          (Format.ofName? name = none ∧ b = .logic (.unknownFormat name))) := by
  simp only [formatBuilder, Answer.do_ok, own_ok, Expect.string_ok]
  constructor
  · intro h
    obtain ⟨_, hw, name, rfl, h⟩ := h
    refine ⟨name, hw, ?_⟩
    cases hf : Format.ofName? name with
    | none =>
      rw [hf] at h
      exact .inr ⟨rfl, (Except.ok.inj h).symm⟩
    | some f =>
      rw [hf] at h
      exact .inl ⟨f, rfl, (Except.ok.inj h).symm⟩
  · intro h
    obtain ⟨name, hw, ⟨f, hf, rfl⟩ | ⟨hf, rfl⟩⟩ := h
    · exact ⟨_, hw, name, rfl, by rw [hf]; rfl⟩
    · exact ⟨_, hw, name, rfl, by rw [hf]; rfl⟩

theorem alternatives_ok {keyword : String} {i : Nat} {xs : List Value} {names : List String}
    {parts : List Part} (h : alternatives keyword i xs = .ok (names, parts)) :
    (∀ x ∈ xs, x.IsTypeName ∨ x.IsSchema) ∧ names = (Value.arr xs).names ∧
      parts.map (·.schema) = (Value.arr xs).schemas := by
  -- the position is only carried along for the messages
  induction xs generalizing i names parts with
  | nil =>
    obtain ⟨rfl, rfl⟩ := Prod.mk.inj (Except.ok.inj h)
    simp [Value.names, Value.schemas, Value.listed]
  | cons x xs ih =>
    cases x with
    | str s =>
      simp only [alternatives] at h
      split at h
      · rename_i hs
        obtain ⟨⟨ns, ps⟩, hrest, hp⟩ := Answer.map_ok.mp h
        obtain ⟨rfl, rfl⟩ := Prod.mk.inj hp
        obtain ⟨hall, hn, hm⟩ := ih hrest
        refine ⟨List.forall_mem_cons.mpr ⟨.inl ⟨s, rfl, hs⟩, hall⟩, ?_, ?_⟩
        · rw [hn]
          rfl
        · rw [hm]
          rfl
      · simp at h
    | obj ms =>
      simp only [alternatives] at h
      obtain ⟨⟨ns, ps⟩, hrest, hp⟩ := Answer.map_ok.mp h
      obtain ⟨rfl, rfl⟩ := Prod.mk.inj hp
      obtain ⟨hall, hn, hm⟩ := ih hrest
      refine ⟨List.forall_mem_cons.mpr ⟨.inr ⟨ms, rfl⟩, hall⟩, hn, ?_⟩
      rw [List.map_cons, hm]
      rfl
    | _ => simp [alternatives] at h

/-- The schemas among the alternatives carry the positions that they were listed at. -/
theorem position_of_alternatives {keyword : String} {i : Nat} {xs : List Value}
    {names : List String} {parts : List Part}
    (h : alternatives keyword i xs = .ok (names, parts)) {p : Part} (hp : p ∈ parts) :
    ∃ j, p.position = some (i + j) ∧ xs[j]? = some p.schema := by
  induction xs generalizing i names parts with
  | nil =>
    obtain ⟨_, rfl⟩ := Prod.mk.inj (Except.ok.inj h)
    simp at hp
  | cons x xs ih =>
    -- a part found behind the first alternative is one further on
    have hlater {ns : List String} {ps : List Part}
        (hrest : alternatives keyword (i + 1) xs = .ok (ns, ps)) (hp : p ∈ ps) :
        ∃ j, p.position = some (i + j) ∧ (x :: xs)[j]? = some p.schema := by
      obtain ⟨j, hj, hx⟩ := ih hrest hp
      refine ⟨j + 1, ?_, hx⟩
      rw [hj, Nat.add_assoc, Nat.add_comm 1]
    cases x with
    | str s =>
      simp only [alternatives] at h
      split at h
      · obtain ⟨⟨ns, ps⟩, hrest, hpair⟩ := Answer.map_ok.mp h
        obtain ⟨_, rfl⟩ := Prod.mk.inj hpair
        exact hlater hrest hp
      · simp at h
    | obj ms =>
      simp only [alternatives] at h
      obtain ⟨⟨ns, ps⟩, hrest, hpair⟩ := Answer.map_ok.mp h
      obtain ⟨_, rfl⟩ := Prod.mk.inj hpair
      rcases List.mem_cons.mp hp with rfl | hp
      · exact ⟨0, rfl, rfl⟩
      · exact hlater hrest hp
    | _ => simp [alternatives] at h

theorem alternatives_isOk {keyword : String} {i : Nat} {xs : List Value}
    (h : ∀ x ∈ xs, x.IsTypeName ∨ x.IsSchema) : ∃ r, alternatives keyword i xs = .ok r := by
  induction xs generalizing i with
  | nil => exact ⟨([], []), rfl⟩
  | cons x xs ih =>
    obtain ⟨hx, hxs⟩ := List.forall_mem_cons.mp h
    obtain ⟨⟨names, parts⟩, hr⟩ := ih (i := i + 1) hxs
    rcases hx with ⟨s, rfl, hs⟩ | ⟨ms, rfl⟩
    · exact ⟨_, by rw [alternatives, if_pos hs, hr]; rfl⟩
    · exact ⟨_, by rw [alternatives, hr]; rfl⟩

theorem typesBuilder_ok {keyword : String} {negated : Bool} {node : Members} {b : Built}
    (h : typesBuilder keyword negated node = .ok b) :
    ∃ w parts, node.get? keyword = some w ∧ w.IsTypes ∧ parts.map (·.schema) = w.schemas ∧
      b = .logic (.types keyword w.names parts negated) := by
  simp only [typesBuilder, Answer.do_ok, own_ok] at h
  obtain ⟨w, hw, h⟩ := h
  cases w with
  | str s =>
    obtain ⟨⟨names, parts⟩, ha, h⟩ := Answer.do_ok.mp h
    obtain ⟨hall, rfl, hm⟩ := alternatives_ok ha
    refine ⟨_, parts, hw, .inl ?_, hm, (Except.ok.inj h).symm⟩
    rcases hall _ (List.mem_singleton.mpr rfl) with hs | ⟨ms, hs⟩
    · exact hs
    · cases hs
  | arr xs =>
    cases xs with
    | nil => simp at h
    | cons x xs =>
      obtain ⟨⟨names, parts⟩, ha, h⟩ := Answer.do_ok.mp h
      obtain ⟨hall, rfl, hm⟩ := alternatives_ok ha
      exact ⟨_, parts, hw, .inr ⟨_, rfl, List.cons_ne_nil _ _, hall⟩, hm,
        (Except.ok.inj h).symm⟩
  | _ => simp at h

/-- The schemas that a type is built to stand where they are listed. -/
theorem of_typesBuilder {keyword : String} {negated : Bool} {node : Members} {b : Built}
    (h : typesBuilder keyword negated node = .ok b) :
    ∃ w names parts, node.get? keyword = some w ∧
      b = .logic (.types keyword names parts negated) ∧ ∀ p ∈ parts, p.Of w := by
  simp only [typesBuilder, Answer.do_ok, own_ok] at h
  obtain ⟨w, hw, h⟩ := h
  cases w with
  | str s =>
    obtain ⟨⟨names, parts⟩, ha, h⟩ := Answer.do_ok.mp h
    have hnone : parts = [] := List.map_eq_nil_iff.mp (alternatives_ok ha).2.2
    refine ⟨_, names, parts, hw, (Except.ok.inj h).symm, ?_⟩
    simp [hnone]
  | arr xs =>
    cases xs with
    | nil => simp at h
    | cons x xs =>
      obtain ⟨⟨names, parts⟩, ha, h⟩ := Answer.do_ok.mp h
      refine ⟨_, names, parts, hw, (Except.ok.inj h).symm, ?_⟩
      intro p hp
      obtain ⟨j, hj, hx⟩ := position_of_alternatives ha hp
      exact .inr ⟨0 + j, _, hj, rfl, by rwa [Nat.zero_add]⟩
  | _ => simp at h

theorem typesBuilder_isOk {keyword : String} {negated : Bool} {node : Members} {w : Value}
    (hw : node.get? keyword = some w) (h : w.IsTypes) :
    ∃ b, typesBuilder keyword negated node = .ok b := by
  -- a single type is a list of one
  have hmake (xs : List Value) (hxs : ∀ x ∈ xs, x.IsTypeName ∨ x.IsSchema) :
      ∃ b, (alternatives keyword 0 xs >>= fun r =>
        pure (.logic (.types keyword r.1 r.2 negated))) = (.ok b : Except Fault Built) := by
    obtain ⟨r, hr⟩ : ∃ r, alternatives keyword 0 xs = .ok r := alternatives_isOk hxs
    exact ⟨_, by rw [hr]; rfl⟩
  rcases h with ⟨s, rfl, hs⟩ | ⟨xs, rfl, hne, hxs⟩
  · obtain ⟨b, hb⟩ := hmake [.str s] (by simpa using .inl ⟨s, rfl, hs⟩)
    exact ⟨b, by simp only [typesBuilder, own_ok.mpr hw]; exact hb⟩
  · obtain ⟨b, hb⟩ := hmake xs hxs
    cases xs with
    | nil => exact absurd rfl hne
    | cons x xs => exact ⟨b, by simp only [typesBuilder, own_ok.mpr hw]; exact hb⟩

/-- Dependencies divided into those that ask for names, each with these, and those that are
schemas. -/
structure Divided (ms : Members) (required : List (String × List String)) (schemas : Members) :
    Prop where
  shapes : ∀ m ∈ ms, m.2.IsDependency
  required : ∀ d, d ∈ required ↔ ∃ v, (d.1, v) ∈ ms ∧ ¬ v.IsSchema ∧ d.2 = v.names
  schemas : ∀ d, d ∈ schemas ↔ d ∈ ms ∧ d.2.IsSchema

theorem Divided.nil : Divided [] [] [] := by
  refine ⟨?_, ?_, ?_⟩ <;> simp

/-- One more dependency that asks for names. -/
theorem Divided.cons_required {ms : Members} {required : List (String × List String)}
    {schemas : Members} (h : Divided ms required schemas) (name : String) {w : Value}
    (hd : w.IsDependency) (hw : ¬ w.IsSchema) :
    Divided ((name, w) :: ms) ((name, w.names) :: required) schemas := by
  refine ⟨List.forall_mem_cons.mpr ⟨hd, h.shapes⟩, ?_, ?_⟩
  · intro d
    simp only [List.mem_cons, h.required, Prod.ext_iff]
    constructor
    · intro hmem
      rcases hmem with ⟨h1, h2⟩ | ⟨v, hv, hn, h2⟩
      · exact ⟨w, .inl ⟨h1, rfl⟩, hw, h2⟩
      · exact ⟨v, .inr hv, hn, h2⟩
    · intro hmem
      obtain ⟨v, ⟨h1, rfl⟩ | hv, hn, h2⟩ := hmem
      · exact .inl ⟨h1, h2⟩
      · exact .inr ⟨v, hv, hn, h2⟩
  · intro d
    rw [h.schemas, List.mem_cons]
    constructor
    · intro hmem
      exact ⟨.inr hmem.1, hmem.2⟩
    · intro hmem
      obtain ⟨rfl | hmem, hs⟩ := hmem
      · exact absurd hs hw
      · exact ⟨hmem, hs⟩

/-- One more dependency that is a schema. -/
theorem Divided.cons_schema {ms : Members} {required : List (String × List String)}
    {schemas : Members} (h : Divided ms required schemas) (name : String) (ps : Members) :
    Divided ((name, .obj ps) :: ms) required ((name, .obj ps) :: schemas) := by
  refine ⟨List.forall_mem_cons.mpr ⟨.inr (.inl ⟨ps, rfl⟩), h.shapes⟩, ?_, ?_⟩
  · intro d
    rw [h.required]
    constructor
    · intro hmem
      obtain ⟨v, hv, h⟩ := hmem
      exact ⟨v, List.mem_cons_of_mem _ hv, h⟩
    · intro hmem
      obtain ⟨v, hv, hn, h⟩ := hmem
      rcases List.mem_cons.mp hv with hv | hv
      · exact absurd ⟨ps, (Prod.mk.inj hv).2⟩ hn
      · exact ⟨v, hv, hn, h⟩
  · intro d
    rw [List.mem_cons, List.mem_cons, h.schemas]
    constructor
    · intro hmem
      rcases hmem with rfl | hmem
      · exact ⟨.inl rfl, ps, rfl⟩
      · exact ⟨.inr hmem.1, hmem.2⟩
    · intro hmem
      obtain ⟨rfl | hmem, hs⟩ := hmem
      · exact .inl rfl
      · exact .inr ⟨hmem, hs⟩

theorem dependencyList_ok {ms : Members} {required : List (String × List String)}
    {schemas : Members} (h : dependencyList ms = .ok (required, schemas)) :
    Divided ms required schemas := by
  induction ms generalizing required schemas with
  | nil =>
    obtain ⟨rfl, rfl⟩ := Prod.mk.inj (Except.ok.inj h)
    exact .nil
  | cons m ms ih =>
    obtain ⟨name, w⟩ := m
    cases w with
    | str s =>
      obtain ⟨⟨required, schemas⟩, hrest, hp⟩ := Answer.map_ok.mp h
      obtain ⟨rfl, rfl⟩ := Prod.mk.inj hp
      have hno : ¬ (Value.str s).IsSchema := by simp [Value.IsSchema]
      exact (ih hrest).cons_required name (.inl ⟨s, rfl⟩) hno
    | arr xs =>
      simp only [dependencyList, Answer.do_ok, Expect.strings_ok] at h
      obtain ⟨siblings, rfl, ⟨required, schemas⟩, hrest, h⟩ := h
      obtain ⟨rfl, rfl⟩ := Prod.mk.inj (Except.ok.inj h)
      have hno : ¬ (Value.arr (siblings.map .str)).IsSchema := by simp [Value.IsSchema]
      have htexts : ∀ x ∈ siblings.map Value.str, x.IsText := by
        intro x hx
        obtain ⟨s, _, rfl⟩ := List.mem_map.mp hx
        exact ⟨s, rfl⟩
      have hnames : (Value.arr (siblings.map .str)).names = siblings := by
        simp [Value.names, Value.listed, List.filterMap_map]
      have hcons := (ih hrest).cons_required name (.inr (.inr ⟨_, rfl, htexts⟩)) hno
      rwa [hnames] at hcons
    | obj ps =>
      obtain ⟨⟨required, schemas⟩, hrest, hp⟩ := Answer.map_ok.mp h
      obtain ⟨rfl, rfl⟩ := Prod.mk.inj hp
      exact (ih hrest).cons_schema name ps
    | _ => simp [dependencyList] at h

theorem dependencyList_isOk {ms : Members} (h : ∀ m ∈ ms, m.2.IsDependency) :
    ∃ r, dependencyList ms = .ok r := by
  induction ms with
  | nil => exact ⟨([], []), rfl⟩
  | cons m ms ih =>
    obtain ⟨name, w⟩ := m
    obtain ⟨hw, hms⟩ := List.forall_mem_cons.mp h
    obtain ⟨⟨req, rest⟩, hr⟩ := ih hms
    rcases hw with ⟨s, hs⟩ | ⟨ps, hs⟩ | ⟨xs, hs, hxs⟩
    · obtain rfl : w = .str s := hs
      exact ⟨_, by rw [dependencyList, hr]; rfl⟩
    · obtain rfl : w = .obj ps := hs
      exact ⟨_, by rw [dependencyList, hr]; rfl⟩
    · obtain rfl : w = .arr xs := hs
      -- texts all of them, so there is a list of strings behind the values
      obtain ⟨ss, rfl⟩ : ∃ ss : List String, xs = ss.map .str := by
        clear h hr
        induction xs with
        | nil => exact ⟨[], rfl⟩
        | cons x xs ihx =>
          obtain ⟨⟨s, rfl⟩, hrest⟩ := List.forall_mem_cons.mp hxs
          obtain ⟨ss, rfl⟩ := ihx hrest
          exact ⟨s :: ss, rfl⟩
      exact ⟨_, by rw [dependencyList, Expect.strings_ok.mpr rfl, hr]; rfl⟩

theorem dependenciesBuilder_ok {node : Members} {b : Built} :
    dependenciesBuilder node = .ok b ↔
      ∃ ms required schemas, node.get? "dependencies" = some (.obj ms) ∧
        dependencyList ms = .ok (required, schemas) ∧
        b = .logic (.dependencies required schemas) := by
  simp only [dependenciesBuilder, Answer.do_ok, own_ok]
  constructor
  · intro h
    obtain ⟨w, hw, h⟩ := h
    cases w with
    | obj ms =>
      obtain ⟨⟨required, schemas⟩, hd, h⟩ := Answer.do_ok.mp h
      exact ⟨ms, required, schemas, hw, hd, (Except.ok.inj h).symm⟩
    | _ => simp at h
  · intro h
    obtain ⟨ms, required, schemas, hw, hd, rfl⟩ := h
    exact ⟨_, hw, by simp only [hd]; rfl⟩

/-- The forms of what the keywords of a node are built to. -/
inductive Makes (node : Members) : Built → Prop
  | always : Makes node (.checker .always)
  | test (t : Test) : Makes node (asTest t)
  | unknownFormat (name : String) : Makes node (.logic (.unknownFormat name))
  | types {keyword : String} {w : Value} {parts : List Part} (negated : Bool)
      (hw : node.get? keyword = some w) (hp : parts.map (·.schema) = w.schemas)
      (hof : ∀ p ∈ parts, p.Of w) : Makes node (.logic (.types keyword w.names parts negated))
  | extending {w : Value} {parts : List Part} (hw : node.get? "extends" = some w)
      (hp : Expect.schemas "extends" w = .ok parts) : Makes node (.logic (.extending parts))
  | dependencies {ms : Members} {required : List (String × List String)} {schemas : Members}
      (hw : node.get? "dependencies" = some (.obj ms))
      (hd : dependencyList ms = .ok (required, schemas)) :
      Makes node (.logic (.dependencies required schemas))
  | reference {ref : String} (hw : node.get? "$ref" = some (.str ref)) :
      Makes node (.logic (.reference ref))

/-- No known keyword makes anything of another form. -/
theorem makes_of_build {k : Keyword} {node : Members} {b : Built} (h : k.build node = .ok b) :
    Makes node b := by
  cases k with
  | additionalItems =>
    obtain ⟨_, _, _, ⟨_, _, _, rfl⟩ | ⟨_, rfl⟩⟩ := additionalItemsBuilder_ok.mp h
    · exact .test _
    · exact .always
  | additionalProperties =>
    obtain ⟨_, _, ⟨_, rfl⟩ | ⟨_, _, _, _, _, _, _, rfl⟩⟩ := additionalPropertiesBuilder_ok.mp h
    · exact .always
    · exact .test _
  | dependencies =>
    obtain ⟨ms, _, _, hw, hd, rfl⟩ := dependenciesBuilder_ok.mp h
    exact .dependencies hw hd
  | disallow | type =>
    obtain ⟨w, parts, hw, _, hp, rfl⟩ := typesBuilder_ok h
    obtain ⟨w', _, _, hw', hlogic, hof⟩ := of_typesBuilder h
    obtain rfl := Option.some.inj (hw.symm.trans hw')
    cases hlogic
    exact .types _ hw hp hof
  | divisibleBy =>
    obtain ⟨_, _, _, _, _, rfl⟩ := divisibleByBuilder_ok.mp h
    exact .test _
  | enum =>
    obtain ⟨_, _, _, rfl⟩ := enumBuilder_ok.mp h
    exact .test _
  | extending =>
    obtain ⟨w, parts, hw, hp, rfl⟩ := extendingBuilder_ok.mp h
    exact .extending hw hp
  | format =>
    obtain ⟨_, _, ⟨_, _, rfl⟩ | ⟨_, rfl⟩⟩ := formatBuilder_ok.mp h
    · exact .test _
    · exact .unknownFormat _
  | items =>
    obtain ⟨_, _, _, rfl⟩ := itemsBuilder_ok.mp h
    exact .always
  | maximum | minimum =>
    obtain ⟨_, _, _, _, _, _, rfl⟩ := boundBuilder_ok.mp h
    exact .test _
  | maxItems | minItems =>
    obtain ⟨_, _, _, _, rfl⟩ := itemCountBuilder_ok.mp h
    exact .test _
  | maxLength | minLength =>
    obtain ⟨_, _, _, _, rfl⟩ := textLengthBuilder_ok.mp h
    exact .test _
  | pattern =>
    obtain ⟨_, _, _, _, rfl⟩ := patternBuilder_ok.mp h
    exact .test _
  | patternProperties =>
    obtain ⟨_, _, _, _, rfl⟩ := patternPropertiesBuilder_ok.mp h
    exact .always
  | properties =>
    obtain ⟨_, names, _, _, rfl⟩ := propertiesBuilder_ok.mp h
    split
    · exact .always
    · exact .test _
  | uniqueItems =>
    obtain ⟨wanted, _, rfl⟩ := uniqueItemsBuilder_ok.mp h
    split
    · exact .test _
    · exact .always
  | reference =>
    obtain ⟨ref, hw, rfl⟩ := referenceBuilder_ok.mp h
    exact .reference hw

end Keyword

end Conform
