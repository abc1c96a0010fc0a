import Conform.Proofs.Builders

/-!
Which keyword values builders accept. A builder makes something exactly if the value of its
keyword has the shape that the meaning of the keyword asks for.
-/
namespace Conform

namespace Keyword

theorem ownOr_isOk {node : Members} {keyword : String}
    (h : ∀ x, node.get? keyword = some x → x.IsBool) :
    ∃ b, ownOr node keyword (.bool false) = .bool b := by
  unfold ownOr
  cases hx : node.get? keyword with
  | none => exact ⟨false, rfl⟩
  | some x => exact h x hx

theorem boundBuilder_isOk {keyword exclusiveKeyword : String} {lower : Bool} {node : Members}
    {w : Value} (hw : node.get? keyword = some w) :
    (∃ b, boundBuilder keyword exclusiveKeyword lower node = .ok b) ↔
      (∃ d, w.decimal? = some d) ∧ ∀ x, node.get? exclusiveKeyword = some x → x.IsBool := by
  simp only [boundBuilder_ok, hw, Option.some.injEq]
  constructor
  · intro h
    obtain ⟨_, _, d, exclusive, rfl, hd, he, _⟩ := h
    exact ⟨⟨d, hd⟩, (ownOr_eq_bool.mp he).1⟩
  · intro h
    obtain ⟨⟨d, hd⟩, he⟩ := h
    obtain ⟨exclusive, he⟩ := ownOr_isOk he
    exact ⟨_, _, d, exclusive, rfl, hd, he, rfl⟩

theorem additionalPropertiesBuilder_isOk {node : Members} {w : Value}
    (hw : node.get? "additionalProperties" = some w) :
    (∃ b, additionalPropertiesBuilder node = .ok b) ↔
      Accepts node .additionalProperties w := by
  simp only [additionalPropertiesBuilder_ok, hw, Option.some.injEq, Accepts]
  constructor
  · intro h
    obtain ⟨_, _, rfl, ⟨hs, _⟩ | ⟨hf, declared, sources, ps, hd, hs, hp, _⟩⟩ := h
    · exact hs.imp id .inl
    · refine .inr (.inr ⟨hf, fun x hx => ?_, fun x hx => ?_⟩)
      · simp only [ownOr, hx, Option.getD_some] at hd
        exact ⟨declared, hd⟩
      · simp only [ownOr, hx, Option.getD_some] at hs
        refine ⟨sources, hs, fun m hm => ?_⟩
        exact isPattern_of_patterns hp _ (List.mem_map_of_mem hm)
  · intro h
    rcases h with hs | hs | ⟨hf, hd, hs⟩
    · exact ⟨_, w, rfl, .inl ⟨.inl hs, rfl⟩⟩
    · exact ⟨_, w, rfl, .inl ⟨.inr hs, rfl⟩⟩
    -- absent members stand for empty ones
    · obtain ⟨declared, hd⟩ : ∃ declared, ownOr node "properties" (.obj []) = .obj declared := by
        unfold ownOr
        cases hx : node.get? "properties" with
        | none => exact ⟨[], rfl⟩
        | some x => exact hd x hx
      obtain ⟨sources, hs, hp⟩ : ∃ sources, ownOr node "patternProperties" (.obj []) =
          .obj sources ∧ ∀ m ∈ sources, Value.IsPattern m.1 := by
        unfold ownOr
        cases hx : node.get? "patternProperties" with
        | none => exact ⟨[], rfl, by simp⟩
        | some x => exact hs x hx
      have hkeys : ∀ s ∈ Members.keys sources, Value.IsPattern s := by
        intro s hs
        obtain ⟨m, hm, rfl⟩ := List.mem_map.mp hs
        exact hp m hm
      obtain ⟨ps, hps⟩ := patterns_isOk hkeys
      exact ⟨_, w, rfl, .inr ⟨hf, declared, sources, ps, hd, hs, hps, rfl⟩⟩

theorem patternPropertiesBuilder_isOk {node : Members} {w : Value}
    (hw : node.get? "patternProperties" = some w) :
    (∃ b, patternPropertiesBuilder node = .ok b) ↔ Accepts node .patternProperties w := by
  simp only [patternPropertiesBuilder_ok, hw, Option.some.injEq, Accepts,
    Expect.isSchemaMap_iff]
  have hnames (l : List (String × Members)) : (∀ s ∈ l.map (·.1), Value.IsPattern s) ↔
      ∀ m ∈ Members.ofSchemas l, Value.IsPattern m.1 := by
    simp only [Members.ofSchemas, List.forall_mem_map]
  constructor
  · intro h
    obtain ⟨_, l, ps, rfl, hp, _⟩ := h
    refine ⟨⟨l, rfl⟩, ?_⟩
    intro _ h
    obtain ⟨⟩ := h
    exact (hnames l).mp (isPattern_of_patterns hp)
  · intro h
    obtain ⟨⟨l, rfl⟩, hall⟩ := h
    obtain ⟨ps, hps⟩ := patterns_isOk ((hnames l).mpr (hall _ rfl))
    exact ⟨_, l, ps, rfl, hps, rfl⟩

theorem propertiesBuilder_isOk {node : Members} {w : Value}
    (hw : node.get? "properties" = some w) :
    (∃ b, propertiesBuilder node = .ok b) ↔ Accepts node .properties w := by
  simp only [propertiesBuilder_ok, hw, Option.some.injEq, Accepts, Expect.isSchemaMap_iff]
  have hflags (l : List (String × Members)) :
      (∀ x ∈ l, ∀ r, x.2.get? "required" = some r → r.IsBool) ↔
      ∀ m ∈ Members.ofSchemas l, ∀ ps, m.2 = .obj ps →
        ∀ r, Members.get? ps "required" = some r → r.IsBool := by
    simp only [Members.ofSchemas, List.forall_mem_map, Value.obj.injEq, forall_eq']
  constructor
  · intro h
    obtain ⟨_, l, names, rfl, hn, _⟩ := h
    refine ⟨⟨l, rfl⟩, ?_⟩
    intro _ h
    obtain ⟨⟩ := h
    exact (hflags l).mp (requiredNames_ok hn).1
  · intro h
    obtain ⟨⟨l, rfl⟩, hall⟩ := h
    obtain ⟨names, hn⟩ := requiredNames_isOk ((hflags l).mpr (hall _ rfl))
    exact ⟨_, l, names, rfl, hn, rfl⟩

theorem typesBuilder_isOk_iff {keyword : String} {negated : Bool} {node : Members} {w : Value}
    (hw : node.get? keyword = some w) :
    (∃ b, typesBuilder keyword negated node = .ok b) ↔ w.IsTypes := by
  refine ⟨fun ⟨b, hb⟩ => ?_, typesBuilder_isOk hw⟩
  obtain ⟨_, _, hw', ht, _⟩ := typesBuilder_ok hb
  rw [hw] at hw'
  exact Option.some.inj hw' ▸ ht

theorem dependenciesBuilder_isOk {node : Members} {w : Value}
    (hw : node.get? "dependencies" = some w) :
    (∃ b, dependenciesBuilder node = .ok b) ↔ Accepts node .dependencies w := by
  simp only [dependenciesBuilder_ok, hw, Option.some.injEq, Accepts]
  constructor
  · intro h
    obtain ⟨_, ms, _, _, rfl, hd, _⟩ := h
    exact ⟨ms, rfl, (dependencyList_ok hd).shapes⟩
  · intro h
    obtain ⟨ms, rfl, hall⟩ := h
    obtain ⟨⟨required, schemas⟩, hd⟩ := dependencyList_isOk hall
    exact ⟨_, ms, required, schemas, rfl, hd, rfl⟩

theorem additionalItemsBuilder_isOk {node : Members} {w : Value}
    (hw : node.get? "additionalItems" = some w) :
    (∃ b, additionalItemsBuilder node = .ok b) ↔ w.IsBool ∨ w.IsSchema := by
  simp only [additionalItemsBuilder_ok, hw, Option.some.injEq]
  constructor
  · intro h
    obtain ⟨_, _, rfl, hs, _⟩ := h
    exact hs
  · intro hs
    by_cases hx : ∃ xs, w = .bool false ∧ node.get? "items" = some (.arr xs)
    · obtain ⟨xs, hf, hi⟩ := hx
      exact ⟨_, w, rfl, hs, .inl ⟨xs, hf, hi, rfl⟩⟩
    · exact ⟨_, w, rfl, hs, .inr ⟨fun xs hf hi => hx ⟨xs, hf, hi⟩, rfl⟩⟩

theorem formatBuilder_isOk {node : Members} {w : Value} (hw : node.get? "format" = some w) :
    (∃ b, formatBuilder node = .ok b) ↔ w.IsText := by
  simp only [formatBuilder_ok, hw, Option.some.injEq]
  constructor
  · intro h
    obtain ⟨_, name, rfl, _⟩ := h
    exact ⟨name, rfl⟩
  · intro h
    obtain ⟨name, rfl⟩ := h
    cases hf : Format.ofName? name with
    | none => exact ⟨_, name, rfl, .inr ⟨hf, rfl⟩⟩
    | some f => exact ⟨_, name, rfl, .inl ⟨f, hf, rfl⟩⟩

/-- A keyword can be built exactly if its value has the shape that its meaning asks for. -/
theorem build_isOk {k : Keyword} {node : Members} {w : Value}
    (hw : node.get? k.name = some w) : (∃ b, k.build node = .ok b) ↔ k.Accepts node w := by
  cases k with
  | additionalItems => exact additionalItemsBuilder_isOk hw
  | additionalProperties => exact additionalPropertiesBuilder_isOk hw
  | dependencies => exact dependenciesBuilder_isOk hw
  | disallow => exact typesBuilder_isOk_iff hw
  | type => exact typesBuilder_isOk_iff hw
  | format => exact formatBuilder_isOk hw
  | maximum => exact boundBuilder_isOk hw
  | minimum => exact boundBuilder_isOk hw
  | patternProperties => exact patternPropertiesBuilder_isOk hw
  | properties => exact propertiesBuilder_isOk hw
  -- these builders expect one value and ask nothing else of the node
  | divisibleBy =>
    simp only [name] at hw
    simp [build, divisibleByBuilder_ok, hw, Accepts]
  | enum =>
    simp only [name] at hw
    simp [build, enumBuilder_ok, hw, Accepts]
  | extending =>
    simp only [name] at hw
    simp only [build, extendingBuilder_ok, hw, Option.some.injEq, Accepts]
    constructor
    · intro h
      obtain ⟨_, _, parts, rfl, hp, _⟩ := h
      exact (Expect.schemas_ok hp).1
    · intro hl
      obtain ⟨parts, hp⟩ := Expect.schemas_isOk hl
      exact ⟨_, _, parts, rfl, hp, rfl⟩
  | items =>
    simp only [name] at hw
    simp [build, itemsBuilder_ok, hw, Accepts]
  | maxItems | minItems =>
    simp only [name] at hw
    simp [build, itemCountBuilder_ok, hw, Accepts]
  | maxLength | minLength =>
    simp only [name] at hw
    simp [build, textLengthBuilder_ok, hw, Accepts]
  | pattern =>
    simp only [name] at hw
    simp [build, patternBuilder_ok, hw, Accepts, Value.IsPattern]
  | uniqueItems =>
    simp only [name] at hw
    simp only [build, uniqueItemsBuilder_ok, hw, Option.some.injEq, Accepts]
    constructor
    · intro h
      obtain ⟨_, wanted, rfl, _⟩ := h
      exact ⟨wanted, rfl⟩
    · intro h
      obtain ⟨wanted, rfl⟩ := h
      exact ⟨_, wanted, rfl, rfl⟩
  | reference =>
    simp only [name] at hw
    simp [build, referenceBuilder_ok, hw, Accepts, Value.IsText]

end Keyword

end Conform
