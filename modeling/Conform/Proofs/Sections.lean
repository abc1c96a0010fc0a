import Conform.Proofs.Quiet

/-!
The schema of configurations read as a table: which sections there are, which leaves each of them
has, and what a leaf may hold. A configuration satisfies the schema exactly if it has just these
sections with just these leaves, each within its range.
-/
namespace Conform

theorem Decimal.le_ofInt {a b : Int} : (Decimal.ofInt a).le (Decimal.ofInt b) ↔ a ≤ b := by
  have hunits (n : Int) : (Decimal.ofInt n).unitsAt 0 = n := by
    simp only [Decimal.unitsAt, Decimal.coefficient, Decimal.ofInt, Int.sub_self, Int.toNat_zero]
    by_cases hn : n < 0
    · simp [hn, abs_of_neg hn]
    · simp [hn, abs_of_nonneg (not_lt.mp hn)]
  have hmin : min (Decimal.ofInt a).exponent (Decimal.ofInt b).exponent = 0 := rfl
  simp only [Decimal.le, hmin, hunits, decide_eq_true_eq]

namespace Kind

/-- A value is of the kind that a name stands for, unless the name is that of numbers. -/
theorem holds_name_iff {kind : Kind} (hkind : kind ≠ .number) {v : Value} :
    holds (.str kind.name) v = .ok true ↔ of? v = some kind := by
  have hparse : parse (.str kind.name) = .ok kind := by cases kind <;> rfl
  have hany : isAny (.str kind.name) = false := by cases kind <;> rfl
  have haccepts {actual : Kind} : accepts kind actual = true ↔ actual = kind := by
    cases kind <;> cases actual <;> first | decide | exact absurd rfl hkind
  rw [holds, hany, hparse]
  cases hof : classify v with
  | error f =>
    have hnone : of? v ≠ some kind := by
      intro hsome
      cases hof.symm.trans (classify_ok.mpr hsome)
    simpa using hnone
  | ok actual =>
    rw [classify_ok.mp hof, Option.some.injEq]
    exact Iff.trans ⟨Except.ok.inj, congrArg Except.ok⟩ haccepts

end Kind

namespace Value

theorem int_of_kind {v : Value} (h : Kind.of? v = some .integer) : ∃ n, v = .int n := by
  cases v with
  | int n => exact ⟨n, rfl⟩
  | real x => cases x <;> simp [Kind.of?, Real.isFinite] at h
  | _ => simp [Kind.of?] at h

theorem bool_of_kind {v : Value} (h : Kind.of? v = some .boolean) : ∃ b, v = .bool b := by
  cases v with
  | bool b => exact ⟨b, rfl⟩
  | real x => cases x <;> simp [Kind.of?, Real.isFinite] at h
  | _ => simp [Kind.of?] at h

theorem isWritable_of_get? {ms : Members} {k : String} {v : Value}
    (h : (Value.obj ms).isWritable) (hv : ms.get? k = some v) : v.isWritable :=
  isWritable_obj.mp h _ (mem_of_get? hv)

theorem equal_str_iff {s : String} {v : Value} : v.equal (str s) ↔ v = .str s := by
  cases v with
  | str t =>
    have hequal : (str t).equal (str s) = (t == s) := rfl
    rw [hequal, beq_iff_eq, Value.str.injEq]
  | _ => exact iff_of_false (by simp [equal]) (by simp)

end Value

theorem Keyword.name_ne_required (k : Keyword) : k.name ≠ "required" := by
  cases k <;> decide

namespace Config

/-- What a leaf may hold. -/
inductive Range where
  | integer (least : Int) (most : Option Int)
  | flag
  | word (words : List String)
  | text
  deriving DecidableEq

namespace Range

/-- The node of a leaf of a range. -/
def node : Range → Members
  | .integer least none =>
    [("type", .str "integer"), ("required", .bool true), ("minimum", .int least)]
  | .integer least (some most) =>
    [("type", .str "integer"), ("required", .bool true), ("minimum", .int least),
      ("maximum", .int most)]
  | .flag => [("type", .str "boolean"), ("required", .bool true)]
  | .word words =>
    [("type", .str "string"), ("required", .bool true), ("enum", .arr (words.map .str))]
  | .text => [("type", .str "string"), ("required", .bool true)]

/-- The values of a range. -/
def Admits : Range → Value → Prop
  | .integer least most, v => ∃ n, v = .int n ∧ least ≤ n ∧ ∀ m, most = some m → n ≤ m
  | .flag, v => ∃ b, v = .bool b
  | .word words, v => ∃ word ∈ words, v = .str word
  | .text, v => ∃ s, v = .str s

/-- The name of the type of all values of a range. -/
def kind : Range → Kind
  | .integer _ _ => .integer
  | .flag => .boolean
  | .word _ | .text => .string

variable {r : Range} {d : Documents} {uri : String} {seen : List Location} {v : Value} {f : Fault}

/-- The keywords of the node of a leaf. -/
theorem keyword_of_node {k : Keyword} {w : Value} (hw : r.node.get? k.name = some w) :
    (k = .type ∧ w = .str r.kind.name) ∨
      (∃ least most, r = .integer least most ∧
        ((k = .minimum ∧ w = .int least) ∨ (∃ m, most = some m ∧ k = .maximum ∧ w = .int m))) ∨
      ∃ words, r = .word words ∧ k = .enum ∧ w = .arr (words.map .str) := by
  have hmem := Value.mem_of_get? hw
  have hrequired := k.name_ne_required
  have hname {l : Keyword} (h : k.name = l.name) : k = l := Keyword.name_injective h
  cases r with
  | integer least most =>
    cases most with
    | none =>
      simp only [node, List.mem_cons, Prod.mk.injEq, List.not_mem_nil, or_false, hrequired,
        false_and, false_or] at hmem
      rcases hmem with ⟨h, rfl⟩ | ⟨h, rfl⟩
      · exact .inl ⟨hname h, rfl⟩
      · exact .inr (.inl ⟨_, _, rfl, .inl ⟨hname h, rfl⟩⟩)
    | some most =>
      simp only [node, List.mem_cons, Prod.mk.injEq, List.not_mem_nil, or_false, hrequired,
        false_and, false_or] at hmem
      rcases hmem with ⟨h, rfl⟩ | ⟨h, rfl⟩ | ⟨h, rfl⟩
      · exact .inl ⟨hname h, rfl⟩
      · exact .inr (.inl ⟨_, _, rfl, .inl ⟨hname h, rfl⟩⟩)
      · exact .inr (.inl ⟨_, _, rfl, .inr ⟨_, rfl, hname h, rfl⟩⟩)
  | word words =>
    simp only [node, List.mem_cons, Prod.mk.injEq, List.not_mem_nil, or_false, hrequired,
      false_and, false_or] at hmem
    rcases hmem with ⟨h, rfl⟩ | ⟨h, rfl⟩
    · exact .inl ⟨hname h, rfl⟩
    · exact .inr (.inr ⟨_, rfl, hname h, rfl⟩)
  | flag | text =>
    simp only [node, List.mem_cons, Prod.mk.injEq, List.not_mem_nil, or_false, hrequired,
      false_and] at hmem
    obtain ⟨h, rfl⟩ := hmem
    exact .inl ⟨hname h, rfl⟩

theorem type_of_node (r : Range) : r.node.get? "type" = some (.str r.kind.name) := by
  cases r with
  | integer least most => cases most <;> rfl
  | _ => rfl

theorem required_of_node (r : Range) : r.node.get? "required" = some (.bool true) := by
  cases r with
  | integer least most => cases most <;> rfl
  | _ => rfl

theorem not_exclusive (r : Range) :
    r.node.get? "exclusiveMinimum" = none ∧ r.node.get? "exclusiveMaximum" = none := by
  cases r with
  | integer least most => cases most <;> exact ⟨rfl, rfl⟩
  | _ => exact ⟨rfl, rfl⟩

theorem properties_of_node (r : Range) : r.node.get? "properties" = none := by
  cases r with
  | integer least most => cases most <;> rfl
  | _ => rfl

theorem quiet_node (hr : r ≠ .word []) : Quiet r.node := by
  refine ⟨?_, ?_, ?_, ?_⟩
  · intro hnil
    have htype := r.type_of_node
    rw [hnil] at htype
    cases htype
  · intro k w hw
    rcases keyword_of_node hw with ⟨rfl, rfl⟩ | ⟨least, most, rfl, ⟨rfl, rfl⟩ | ⟨m, rfl, rfl, rfl⟩⟩ |
      ⟨words, rfl, rfl, rfl⟩
    · refine ⟨rfl, .inl ⟨_, rfl, ?_⟩⟩
      cases r <;> rfl
    · refine ⟨rfl, ⟨_, rfl⟩, ?_⟩
      intro x hx
      rw [(not_exclusive _).1] at hx
      cases hx
    · refine ⟨rfl, ⟨_, rfl⟩, ?_⟩
      intro x hx
      rw [(not_exclusive _).2] at hx
      cases hx
    · refine ⟨rfl, _, rfl, ?_⟩
      intro hnil
      exact hr (congrArg word (List.map_eq_nil_iff.mp hnil))
  · intro w hw
    rw [type_of_node] at hw
    obtain rfl := Option.some.inj hw
    exact ⟨_, rfl⟩
  · intro ms hms
    cases r with
    | integer least most => cases most <;> cases hms
    | _ => cases hms

theorem not_governs (hr : r ≠ .word []) {token : Token} {t : Value} :
    ¬ Governs r.node token t := by
  intro hg
  obtain ⟨_, _, _, hps, _⟩ := (quiet_node hr).governs_iff.mp hg
  rw [properties_of_node] at hps
  cases hps

theorem holds_least {least n : Int} {most : Option Int} :
    (Keyword.minimum).Holds (node (.integer least most)) (.int least) (.int n) ↔ least ≤ n := by
  simp [Keyword.Holds, Value.decimal?, (not_exclusive (.integer least most)).1, Decimal.le_ofInt]

theorem holds_most {least m n : Int} {most : Option Int} :
    (Keyword.maximum).Holds (node (.integer least most)) (.int m) (.int n) ↔ n ≤ m := by
  simp [Keyword.Holds, Value.decimal?, (not_exclusive (.integer least most)).2, Decimal.le_ofInt]

theorem holds_words {words : List String} {node : Members} :
    (Keyword.enum).Holds node (.arr (words.map .str)) v ↔ ∃ word ∈ words, v = .str word := by
  constructor
  · intro h
    obtain ⟨x, hx, hequal⟩ := h
    obtain ⟨word, hword, rfl⟩ := List.mem_map.mp hx
    exact ⟨word, hword, Value.equal_str_iff.mp hequal⟩
  · intro h
    obtain ⟨word, hword, hv⟩ := h
    exact ⟨.str word, List.mem_map_of_mem hword, Value.equal_str_iff.mpr hv⟩

theorem applies_int {n : Int} {k : Keyword} (hk : k = .minimum ∨ k = .maximum) :
    k.Applies (.int n) := by
  rcases hk with rfl | rfl <;> exact ⟨.integer, by decide, rfl⟩

/-- Every keyword of the node of a leaf of the right type holds just within its range. -/
theorem holds_iff (hkind : Kind.of? v = some r.kind) :
    (∀ (k : Keyword) w, r.node.get? k.name = some w → k.Applies v → k.Holds r.node w v) ↔
      r.Admits v := by
  cases r with
  | integer least most =>
    obtain ⟨n, rfl⟩ := Value.int_of_kind hkind
    constructor
    · intro h
      refine ⟨n, rfl, ?_, ?_⟩
      · exact holds_least.mp (h .minimum _ (by cases most <;> rfl) (applies_int (.inl rfl)))
      · intro m hm
        rw [hm] at h
        exact holds_most.mp (h .maximum (.int m) rfl (applies_int (.inr rfl)))
    · intro h k w hw _
      obtain ⟨n', hn, hle, hm⟩ := h
      obtain rfl := Value.int.inj hn
      rcases keyword_of_node hw with ⟨rfl, rfl⟩ | ⟨_, _, heq, ⟨rfl, rfl⟩ | ⟨m, rfl, rfl, rfl⟩⟩ |
        ⟨_, heq, _⟩
      · trivial
      · obtain ⟨rfl, rfl⟩ := Range.integer.inj heq
        exact holds_least.mpr hle
      · obtain ⟨rfl, rfl⟩ := Range.integer.inj heq
        exact holds_most.mpr (hm m rfl)
      · cases heq
  | word words =>
    obtain ⟨s, rfl⟩ := Value.eq_str_of_kind hkind
    constructor
    · intro h
      exact holds_words.mp (h .enum _ rfl ⟨.string, by decide, rfl⟩)
    · intro h k w hw _
      rcases keyword_of_node hw with ⟨rfl, rfl⟩ | ⟨_, _, heq, _⟩ | ⟨_, heq, rfl, rfl⟩
      · trivial
      · cases heq
      · obtain rfl := Range.word.inj heq
        exact holds_words.mpr h
  | flag =>
    refine iff_of_true ?_ (Value.bool_of_kind hkind)
    intro k w hw _
    rcases keyword_of_node hw with ⟨rfl, rfl⟩ | ⟨_, _, heq, _⟩ | ⟨_, heq, _⟩
    · trivial
    · cases heq
    · cases heq
  | text =>
    refine iff_of_true ?_ (Value.eq_str_of_kind hkind)
    intro k w hw _
    rcases keyword_of_node hw with ⟨rfl, rfl⟩ | ⟨_, _, heq, _⟩ | ⟨_, heq, _⟩
    · trivial
    · cases heq
    · cases heq

theorem kind_of_admits (h : r.Admits v) : Kind.of? v = some r.kind := by
  cases r with
  | integer least most =>
    obtain ⟨n, rfl, _⟩ := h
    rfl
  | flag =>
    obtain ⟨b, rfl⟩ := h
    rfl
  | word words =>
    obtain ⟨word, _, rfl⟩ := h
    rfl
  | text =>
    obtain ⟨s, rfl⟩ := h
    rfl

/-- A value satisfies the node of a leaf exactly if it is within the range. -/
theorem satisfies_iff (hr : r ≠ .word []) :
    Satisfies d uri seen (.obj r.node) v ↔ r.Admits v := by
  have hnumber : r.kind ≠ .number := by cases r <;> simp [kind]
  rw [(quiet_node hr).satisfies_iff]
  constructor
  · intro h
    obtain ⟨hholds, htype, _⟩ := h
    exact (holds_iff ((Kind.holds_name_iff hnumber).mp (htype _ r.type_of_node))).mp hholds
  · intro h
    have hkind := kind_of_admits h
    refine ⟨(holds_iff hkind).mpr h, ?_, fun c _ t hg => absurd hg (not_governs hr)⟩
    intro t ht
    rw [type_of_node] at ht
    obtain rfl := Value.str.inj (Option.some.inj ht)
    exact (Kind.holds_name_iff hnumber).mpr hkind

theorem escapes_iff (hr : r ≠ .word []) : Escapes d uri seen (.obj r.node) v f ↔
    Kind.classify v = .error f ∨ (f = .unwritable ∧ Hides r.node v) := by
  have hnone : ¬ ∃ c ∈ v.children, ∃ t, Governs r.node c.1 t ∧ Escapes d uri [] t c.2 f := by
    intro h
    obtain ⟨_, _, _, hg, _⟩ := h
    exact not_governs hr hg
  rw [(quiet_node hr).escapes_iff, or_iff_left hnone]

/-- Whether a value of a leaf is quoted by a complaint that it is out of range; numbers with a
fraction are left aside. -/
def Quotes : Range → Value → Prop
  | .integer least most, v => ∃ n, v = .int n ∧ ¬ (least ≤ n ∧ ∀ m, most = some m → n ≤ m)
  | .word words, v => ∀ word ∈ words, v ≠ .str word
  | .flag, _ | .text, _ => False

theorem not_quotes_of_admits (h : r.Admits v) : ¬ r.Quotes v := by
  intro hquotes
  cases r with
  | integer least most =>
    obtain ⟨n, rfl, hle, hm⟩ := h
    obtain ⟨n', hn, hout⟩ := hquotes
    obtain rfl := Value.int.inj hn
    exact hout ⟨hle, hm⟩
  | word words =>
    obtain ⟨word, hword, hv⟩ := h
    exact hquotes word hword hv
  | flag | text => exact hquotes

/-- The limits of a range being short, a complaint that cannot be written quotes a value that
cannot. -/
theorem quotes_of_hides (hshort : (Value.obj r.node).isWritable) (h : Hides r.node v) :
    r.Quotes v ∧ ¬ v.isWritable := by
  obtain ⟨k, w, hw, ⟨kind, hkind, hof⟩, hholds, hlong⟩ := h
  have hvalue (hlong : ¬ (v.isWritable ∧ w.isWritable)) : ¬ v.isWritable :=
    fun hv => hlong ⟨hv, Value.isWritable_of_get? hshort hw⟩
  -- a limit applies to integers, as numbers with a fraction can be written
  have hint (hkind : kind ∈ [Kind.integer, Kind.number]) (hlong : ¬ v.isWritable) :
      ∃ n, v = .int n := by
    rcases List.mem_cons.mp hkind with rfl | hkind
    · exact Value.int_of_kind hof
    · rw [List.mem_singleton.mp hkind] at hof
      cases v with
      | real x => exact absurd rfl hlong
      | _ => simp [Kind.of?] at hof
  rcases keyword_of_node hw with ⟨rfl, rfl⟩ | ⟨least, most, rfl, ⟨rfl, rfl⟩ | ⟨m, rfl, rfl, rfl⟩⟩ |
    ⟨words, rfl, rfl, rfl⟩
  · exact hlong.elim
  · obtain ⟨n, rfl⟩ := hint hkind (hvalue hlong)
    rw [holds_least] at hholds
    exact ⟨⟨n, rfl, fun h => hholds h.1⟩, hvalue hlong⟩
  · obtain ⟨n, rfl⟩ := hint hkind (hvalue hlong)
    rw [holds_most] at hholds
    exact ⟨⟨n, rfl, fun h => hholds (h.2 m rfl)⟩, hvalue hlong⟩
  · exact ⟨fun word hword hv => hholds (holds_words.mpr ⟨word, hword, hv⟩), hlong⟩

theorem hides_of_quotes {kind : Kind} (hof : Kind.of? v = some kind) (h : r.Quotes v)
    (hlong : ¬ v.isWritable) : Hides r.node v := by
  have hboth {w : Value} : ¬ (v.isWritable ∧ w.isWritable) := fun hboth => hlong hboth.1
  cases r with
  | integer least most =>
    obtain ⟨n, rfl, hout⟩ := h
    -- a number out of range misses one of the two limits, whose keyword then quotes it
    rcases not_and_or.mp hout with hless | hmore
    · refine ⟨.minimum, .int least, by cases most <;> rfl, applies_int (.inl rfl), ?_, hboth⟩
      rw [holds_least]
      exact hless
    · push Not at hmore
      obtain ⟨m, rfl, hm⟩ := hmore
      refine ⟨.maximum, .int m, rfl, applies_int (.inr rfl), ?_, hboth⟩
      rw [holds_most]
      exact not_le.mpr hm
  | word words =>
    refine ⟨.enum, .arr (words.map .str), rfl, ⟨kind, ?_, hof⟩, ?_, hlong⟩
    · cases kind <;> decide
    · intro hholds
      obtain ⟨word, hword, hv⟩ := holds_words.mp hholds
      exact h word hword hv
  | flag | text => exact h.elim

end Range

/-- A node that asks for an object with just the declared members, all of them. -/
structure Record (node fields : Members) : Prop where
  type : node.get? "type" = some (.str "object")
  closed : node.get? "additionalProperties" = some (.bool false)
  properties : node.get? "properties" = some (.obj fields)
  only : ∀ (k : Keyword) w, node.get? k.name = some w →
    k = .type ∨ k = .additionalProperties ∨ k = .properties
  required : ∀ m ∈ fields, ∃ t, m.2 = .obj t ∧ Members.get? t "required" = some (.bool true)

namespace Record

variable {node fields : Members} {d : Documents} {uri : String} {seen : List Location} {v : Value}
  {f : Fault}

theorem quiet (h : Record node fields) : Quiet node := by
  have hpatterns : node.get? "patternProperties" = none := by
    apply Option.eq_none_iff_forall_ne_some.mpr
    intro w hw
    rcases h.only .patternProperties w hw with hk | hk | hk <;> cases hk
  refine ⟨?_, ?_, ?_, ?_⟩
  · intro hnil
    have htype := h.type
    rw [hnil] at htype
    cases htype
  · intro k w hw
    rcases h.only k w hw with rfl | rfl | rfl
    · obtain rfl := Option.some.inj (h.type.symm.trans hw)
      exact ⟨rfl, .inl ⟨_, rfl, by decide⟩⟩
    · obtain rfl := Option.some.inj (h.closed.symm.trans hw)
      refine ⟨rfl, .inr (.inr ⟨rfl, ?_, ?_⟩)⟩
      · intro ps hps
        obtain rfl := Option.some.inj (h.properties.symm.trans hps)
        exact ⟨_, rfl⟩
      · intro ps hps
        cases hpatterns.symm.trans hps
    · obtain rfl := Option.some.inj (h.properties.symm.trans hw)
      refine ⟨rfl, ⟨_, rfl, ?_⟩, ?_⟩
      · intro m hm
        obtain ⟨t, ht, _⟩ := h.required m hm
        exact ⟨t, ht⟩
      · intro ms hms m hm ps hps r hr
        obtain rfl := Value.obj.inj hms
        obtain ⟨t, ht, htrue⟩ := h.required m hm
        obtain rfl := Value.obj.inj (ht.symm.trans hps)
        obtain rfl := Option.some.inj (htrue.symm.trans hr)
        exact ⟨true, rfl⟩
  · intro w hw
    obtain rfl := Option.some.inj (h.type.symm.trans hw)
    exact ⟨_, rfl⟩
  · intro ms hms
    cases h.closed.symm.trans hms

theorem governs_iff (h : Record node fields) {token : Token} {t : Value} :
    Governs node token t ↔ ∃ name, token = .name name ∧ fields.get? name = some t := by
  rw [h.quiet.governs_iff]
  constructor
  · intro hg
    obtain ⟨name, ps, htoken, hps, hp⟩ := hg
    obtain rfl := Value.obj.inj (Option.some.inj (h.properties.symm.trans hps))
    exact ⟨name, htoken, hp⟩
  · intro hg
    obtain ⟨name, htoken, hp⟩ := hg
    exact ⟨name, fields, htoken, h.properties, hp⟩

theorem covers_iff (h : Record node fields) {name : String} :
    Covers node name ↔ fields.has name := by
  have hpatterns : node.get? "patternProperties" = none :=
    h.quiet.absent (k := .patternProperties) rfl
  rw [Members.has_iff]
  constructor
  · intro hc
    rcases hc with ⟨ps, t, hps, hp⟩ | ⟨_, _, ⟨_, hps, _⟩, _⟩
    · obtain rfl := Value.obj.inj (Option.some.inj (h.properties.symm.trans hps))
      exact ⟨t, hp⟩
    · cases hpatterns.symm.trans hps
  · intro hc
    obtain ⟨t, ht⟩ := hc
    exact .inl ⟨fields, t, h.properties, ht⟩

/-- What a record asks of an object. -/
theorem satisfies_iff (h : Record node fields) {ms : Members} (hn : (Members.keys ms).Nodup) :
    Satisfies d uri seen (.obj node) (.obj ms) ↔
      (∀ k, ms.has k ↔ fields.has k) ∧
        ∀ k x t, ms.get? k = some x → fields.get? k = some t → Satisfies d uri [] t x := by
  have happlies {k : Keyword} (hk : .object ∈ k.kinds) : k.Applies (.obj ms) := ⟨.object, hk, rfl⟩
  rw [h.quiet.satisfies_iff]
  constructor
  · intro hsat
    obtain ⟨hholds, _, hchildren⟩ := hsat
    refine ⟨?_, ?_⟩
    · intro k
      constructor
      · intro hk
        obtain ⟨x, hx⟩ := Members.has_iff.mp hk
        rw [← h.covers_iff]
        exact hholds .additionalProperties _ h.closed (happlies (by decide)) ms rfl rfl (k, x)
          (Value.mem_of_get? hx)
      · intro hk
        obtain ⟨t, ht⟩ := Members.has_iff.mp hk
        have hmem := Value.mem_of_get? ht
        obtain ⟨t', rfl, htrue⟩ := h.required _ hmem
        exact hholds .properties _ h.properties (happlies (by decide)) fields ms rfl rfl k t' hmem
          htrue
    · intro k x t hx ht
      have hc : (Token.name k, x) ∈ (Value.obj ms).children :=
        List.mem_map.mpr ⟨(k, x), Value.mem_of_get? hx, rfl⟩
      exact hchildren _ hc t (h.governs_iff.mpr ⟨k, rfl, ht⟩)
  · intro hrecord
    obtain ⟨hnames, hvalues⟩ := hrecord
    refine ⟨?_, ?_, ?_⟩
    · intro k w hw _
      rcases h.only k w hw with rfl | rfl | rfl
      · trivial
      · intro ns _ hns m hm
        obtain rfl := Value.obj.inj hns
        rw [h.covers_iff, ← hnames, Members.has_iff]
        exact ⟨m.2, (Members.mem_iff_get? hn).mp hm⟩
      · intro ps ns hps hns name t hmem _
        obtain rfl := Option.some.inj (h.properties.symm.trans hw)
        obtain rfl := Value.obj.inj hps
        obtain rfl := Value.obj.inj hns
        rw [hnames, Members.has_iff_mem]
        exact List.mem_map.mpr ⟨_, hmem, rfl⟩
    · intro t ht
      obtain rfl := Value.str.inj (Option.some.inj (h.type.symm.trans ht))
      rfl
    · intro c hc t hg
      obtain ⟨k, hk, hmem⟩ := Value.name_of_mem_children hc
      obtain ⟨name, hname, ht⟩ := h.governs_iff.mp hg
      obtain rfl := Token.name.inj (hk.symm.trans hname)
      exact hvalues _ c.2 t ((Members.mem_iff_get? hn).mp hmem) ht

/-- Only objects satisfy a record. -/
theorem exists_members (h : Record node fields) (hsat : Satisfies d uri seen (.obj node) v) :
    ∃ ms, v = .obj ms := by
  have htype := (h.quiet.satisfies_iff.mp hsat).2.1 _ h.type
  have hkind : Kind.of? v = some .object :=
    (Kind.holds_name_iff (by decide : Kind.object ≠ .number)).mp htype
  exact Value.eq_obj_of_kind hkind

theorem not_hides (h : Record node fields) : ¬ Hides node v := by
  intro hhides
  obtain ⟨k, w, hw, _, _, hlong⟩ := hhides
  rcases h.only k w hw with rfl | rfl | rfl <;> exact hlong

/-- Judging by a record fails on a foreign value, or below a declared member. -/
theorem escapes_iff (h : Record node fields) : Escapes d uri seen (.obj node) v f ↔
    Kind.classify v = .error f ∨
      ∃ ms k x t, v = .obj ms ∧ (k, x) ∈ ms ∧ fields.get? k = some t ∧ Escapes d uri [] t x f := by
  have hnone : ¬ (f = .unwritable ∧ Hides node v) := fun hhides => h.not_hides hhides.2
  rw [h.quiet.escapes_iff, or_iff_right_of_imp fun hhides => absurd hhides hnone]
  constructor
  · intro hcause
    rcases hcause with hk | ⟨c, hc, t, hg, hbelow⟩
    · exact .inl hk
    · obtain ⟨name, hname, ht⟩ := h.governs_iff.mp hg
      have hv : ∃ ms, v = .obj ms := by
        cases v with
        | obj ms => exact ⟨ms, rfl⟩
        | _ =>
          obtain ⟨x, _, rfl⟩ := List.mem_map.mp hc
          cases hname
      obtain ⟨ms, rfl⟩ := hv
      obtain ⟨k, hk, hmem⟩ := Value.name_of_mem_children hc
      obtain rfl := Token.name.inj (hk.symm.trans hname)
      exact .inr ⟨ms, _, c.2, t, rfl, hmem, ht, hbelow⟩
  · intro hcause
    rcases hcause with hk | ⟨ms, k, x, t, rfl, hmem, ht, hbelow⟩
    · exact .inl hk
    · exact .inr ⟨(.name k, x), List.mem_map.mpr ⟨_, hmem, rfl⟩, t, h.governs_iff.mpr ⟨k, rfl, ht⟩,
        hbelow⟩

end Record

end Config

end Conform
