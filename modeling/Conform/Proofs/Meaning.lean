import Conform.Keyword.Basic
import Conform.Proofs.Positions

/-!
What a schema means. A value satisfies an object node if every keyword of the node that applies to
the kind of the value has a value of the right shape and holds of the value, the nodes that the
keywords name are satisfied as each keyword wants it, and so is every child under every node that
governs it. The target of a reference must be satisfied too, and must not have been the target of
a reference followed before at the same value. No other node is ever satisfied.
-/
namespace Conform

namespace Value

def IsSchema (v : Value) : Prop := ∃ ms, v = .obj ms

/-- The parts of an array; any other value by itself. -/
def listed : Value → List Value
  | .arr xs => xs
  | v => [v]

def IsSchemaList (v : Value) : Prop := v.IsSchema ∨ ∃ xs, v = .arr xs ∧ ∀ x ∈ xs, x.IsSchema

def IsSchemaMap (v : Value) : Prop := ∃ ms, v = .obj ms ∧ ∀ m ∈ ms, m.2.IsSchema

def IsBool (v : Value) : Prop := ∃ b, v = .bool b

def IsText (v : Value) : Prop := ∃ s, v = .str s

def IsTypeName (v : Value) : Prop := ∃ s, v = .str s ∧ Kind.isTypeName s

/-- A type name, or type names and schemas of which there is at least one. -/
def IsTypes (v : Value) : Prop :=
  v.IsTypeName ∨ ∃ xs, v = .arr xs ∧ xs ≠ [] ∧ ∀ x ∈ xs, x.IsTypeName ∨ x.IsSchema

def IsDependency (v : Value) : Prop :=
  v.IsText ∨ v.IsSchema ∨ ∃ xs, v = .arr xs ∧ ∀ x ∈ xs, x.IsText

/-- The names among the parts of a dependency. -/
def names (v : Value) : List String :=
  v.listed.filterMap fun
    | .str s => some s
    | _ => none

/-- The schemas among the parts of a keyword's value. -/
def schemas (v : Value) : List Value :=
  v.listed.filter fun
    | .obj _ => true
    | _ => false

/-- The number of things that a value stands for: an integer, or a number without fraction. -/
def Counts (v : Value) (n : Nat) : Prop :=
  v = .int n ∨ ∃ x, v = .real x ∧ x.integer? = some (n : Int)

def IsPattern (s : String) : Prop := ∃ p, Pattern.compile s = .ok p

end Value

/-- Some stretch of a text matches a pattern. -/
def Matches (source s : String) : Prop :=
  ∃ p, Pattern.compile source = .ok p ∧ p.search s = .ok true

/-- A member of the object at a keyword. -/
def Names (node : Members) (keyword name : String) (v : Value) : Prop :=
  ∃ ms, node.get? keyword = some (.obj ms) ∧ (name, v) ∈ ms

/-- A name that a node declares, or that one of its patterns matches. -/
def Covers (node : Members) (name : String) : Prop :=
  (∃ ps t, node.get? "properties" = some (.obj ps) ∧ Members.get? ps name = some t) ∨
    ∃ source t, Names node "patternProperties" source t ∧ Matches source name

/-- The nodes that a node has for the child at a token. -/
inductive Governs (node : Members) : Token → Value → Prop
  | everyItem {i : Nat} {ms : Members} (h : node.get? "items" = some (.obj ms)) :
      Governs node (.index i) (.obj ms)
  | item {i : Nat} {xs : List Value} {t : Value} (h : node.get? "items" = some (.arr xs))
      (hi : xs[i]? = some t) : Governs node (.index i) t
  | furtherItem {i : Nat} {xs : List Value} {ms : Members}
      (h : node.get? "items" = some (.arr xs)) (hi : xs.length ≤ i)
      (hf : node.get? "additionalItems" = some (.obj ms)) : Governs node (.index i) (.obj ms)
  | property {name : String} {ps : Members} {t : Value}
      (h : node.get? "properties" = some (.obj ps)) (hp : ps.get? name = some t) :
      Governs node (.name name) t
  | matched {name source : String} {t : Value} (h : Names node "patternProperties" source t)
      (hm : Matches source name) : Governs node (.name name) t
  | further {name : String} {ms : Members} (h : ¬ Covers node name)
      (hf : node.get? "additionalProperties" = some (.obj ms)) : Governs node (.name name) (.obj ms)

namespace Keyword

/-- The kinds of values that the keyword is looked at for. -/
def Applies (k : Keyword) (v : Value) : Prop := ∃ kind ∈ k.kinds, Kind.of? v = some kind

/-- The shape that the value of a keyword must have, given the node. -/
def Accepts (node : Members) : Keyword → Value → Prop
  | .additionalItems, w => w.IsBool ∨ w.IsSchema
  | .additionalProperties, w =>
    w.IsSchema ∨ w = .bool true ∨
      (w = .bool false ∧ (∀ ps, node.get? "properties" = some ps → ps.IsSchema) ∧
        ∀ ps, node.get? "patternProperties" = some ps →
          ∃ ms, ps = .obj ms ∧ ∀ m ∈ ms, Value.IsPattern m.1)
  | .dependencies, w => ∃ ms, w = .obj ms ∧ ∀ m ∈ ms, m.2.IsDependency
  | .disallow, w | .type, w => w.IsTypes
  | .divisibleBy, w => ∃ d, w.decimal? = some d ∧ d.isPositive
  | .enum, w => ∃ xs, w = .arr xs ∧ xs ≠ []
  | .extending, w | .items, w => w.IsSchemaList
  | .format, w | .reference, w => w.IsText
  | .maximum, w =>
    (∃ d, w.decimal? = some d) ∧ ∀ x, node.get? "exclusiveMaximum" = some x → x.IsBool
  | .minimum, w =>
    (∃ d, w.decimal? = some d) ∧ ∀ x, node.get? "exclusiveMinimum" = some x → x.IsBool
  | .maxItems, w | .minItems, w | .maxLength, w | .minLength, w => ∃ n, w.Counts n
  | .pattern, w => ∃ s, w = .str s ∧ Value.IsPattern s
  | .patternProperties, w => w.IsSchemaMap ∧ ∀ ms, w = .obj ms → ∀ m ∈ ms, Value.IsPattern m.1
  | .properties, w =>
    w.IsSchemaMap ∧ ∀ ms, w = .obj ms → ∀ m ∈ ms, ∀ ps, m.2 = .obj ps →
      ∀ r, Members.get? ps "required" = some r → r.IsBool
  | .uniqueItems, w => w.IsBool

/-- What the keyword asks of a value, as far as it names no other node. -/
def Holds (node : Members) : Keyword → Value → Value → Prop
  | .additionalItems, w, v =>
    ∀ xs ys, w = .bool false → node.get? "items" = some (.arr xs) → v = .arr ys →
      ys.length ≤ xs.length
  | .additionalProperties, w, v =>
    ∀ ms, w = .bool false → v = .obj ms → ∀ m ∈ ms, Covers node m.1
  | .divisibleBy, w, v =>
    ∀ x unit, v.decimal? = some x → w.decimal? = some unit → x.isMultipleOf unit
  | .enum, w, v => ∃ x ∈ w.listed, v.equal x
  | .format, w, v =>
    ∀ f : Format, w = .str f.name → (∃ kind ∈ f.kinds, Kind.of? v = some kind) →
      f.check v = .ok true
  | .maximum, w, v =>
    ∀ x limit, v.decimal? = some x → w.decimal? = some limit →
      x.le limit ∧ (node.get? "exclusiveMaximum" = some (.bool true) → x.lt limit)
  | .minimum, w, v =>
    ∀ x limit, v.decimal? = some x → w.decimal? = some limit →
      limit.le x ∧ (node.get? "exclusiveMinimum" = some (.bool true) → limit.lt x)
  | .maxItems, w, v => ∀ n xs, w.Counts n → v = .arr xs → xs.length ≤ n
  | .minItems, w, v => ∀ n xs, w.Counts n → v = .arr xs → n ≤ xs.length
  | .maxLength, w, v => ∀ n s, w.Counts n → v = .str s → s.length ≤ n
  | .minLength, w, v => ∀ n s, w.Counts n → v = .str s → n ≤ s.length
  | .pattern, w, v => ∀ source s, w = .str source → v = .str s → Matches source s
  | .properties, w, v =>
    ∀ ps ms, w = .obj ps → v = .obj ms → ∀ name t, (name, .obj t) ∈ ps →
      Members.get? t "required" = some (.bool true) → Members.has ms name
  | .uniqueItems, w, v =>
    ∀ xs, w = .bool true → v = .arr xs → xs.Pairwise fun x y => x.equal y = false
  | _, _, _ => True

/-- Whether the complaint that the keyword does not hold of a value quotes an integer with more
digits than are written. -/
def Unwritten : Keyword → Value → Value → Prop
  | .divisibleBy, w, v | .maximum, w, v | .minimum, w, v => ¬ (v.isWritable ∧ w.isWritable)
  | .enum, _, v => ¬ v.isWritable
  | .maxItems, w, _ | .minItems, w, _ | .maxLength, w, _ | .minLength, w, _ =>
    ∃ n : Nat, w.Counts n ∧ ¬ (Value.int n).isWritable
  | _, _, _ => False

end Keyword

namespace Documents

/-- The number of nodes that have not been the target of a reference. -/
def unseen (d : Documents) (seen : List Location) : Nat :=
  (d.locations.filter fun l => !seen.contains l).length

theorem unseen_append_lt {d : Documents} {seen : List Location} {l : Location}
    (hl : l ∈ d.locations) (hs : l ∉ seen) : d.unseen (seen ++ [l]) < d.unseen seen := by
  -- what is still unseen afterwards is what was unseen, without the new node
  have hsplit : d.locations.filter (fun m => !(seen ++ [l]).contains m) =
      (d.locations.filter fun m => !seen.contains m).filter fun m => m != l := by
    rw [List.filter_filter]
    apply List.filter_congr
    intro m _
    by_cases hm : m = l <;> simp [hm, List.contains_eq_mem]
  unfold unseen
  rw [hsplit]
  apply List.length_filter_lt_length_iff_exists.mpr
  refine ⟨l, List.mem_filter.mpr ⟨hl, by simpa using hs⟩, by simp⟩

end Documents

theorem Value.size_le_of_mem_listed {t w : Value} (h : t ∈ w.listed) : t.size ≤ w.size := by
  cases w with
  | arr xs => exact (size_lt_of_mem_arr h).le
  | _ =>
    obtain rfl := List.mem_singleton.mp h
    exact le_rfl

/-- Whether a value satisfies a node of the document at `uri`, the targets of the references
followed so far at this value being `seen`. -/
def Satisfies (d : Documents) : String → List Location → Value → Value → Prop
  | uri, seen, .obj node, v =>
    (∀ (k : Keyword) w, Members.get? node k.name = some w → k.Applies v →
      k.Accepts node w ∧ k.Holds node w v) ∧
    (∀ w, Members.get? node "extends" = some w → ∀ t ∈ w.listed, Satisfies d uri seen t v) ∧
    (∀ w, Members.get? node "type" = some w →
      (∃ n ∈ w.names, Kind.holds (.str n) v = .ok true) ∨
        ∃ t, ∃ _ : t ∈ w.listed, Satisfies d uri seen t v) ∧
    (∀ w, Members.get? node "disallow" = some w →
      ¬ ((∃ n ∈ w.names, Kind.holds (.str n) v = .ok true) ∨
        ∃ t, ∃ _ : t ∈ w.listed, Satisfies d uri seen t v)) ∧
    (∀ deps members, Members.get? node "dependencies" = some (.obj deps) → v = .obj members →
      ∀ m ∈ deps, Members.has members m.1 →
        (∀ n ∈ m.2.names, Members.has members n) ∧
          (m.2.IsSchema → Satisfies d uri seen m.2 v)) ∧
    (∀ ref, Members.get? node "$ref" = some (.str ref) →
      ∃ l t, ∃ _ : d.resolve (.str ref) { uri } = .ok (l, t), ∃ _ : l ∉ seen,
        Satisfies d l.uri (seen ++ [l]) t v) ∧
    ∀ c ∈ v.children, ∀ t, Governs node c.1 t → Satisfies d uri [] t c.2
  | _, _, _, _ => False
termination_by _ seen node v => (v.size, d.unseen seen, node.size)
decreasing_by
  all_goals first
    | exact Prod.Lex.left _ _ (Value.size_lt_of_mem_children ‹_›)
    | refine Prod.Lex.right _ (Prod.Lex.left _ _ (Documents.unseen_append_lt ?_ ‹_›))
      exact Documents.mem_locations_of_resolve ‹_›
    | refine Prod.Lex.right _ (Prod.Lex.right _ ?_)
      exact (Value.size_le_of_mem_listed ‹_›).trans_lt (Value.size_lt_of_get? ‹_›)
    | refine Prod.Lex.right _ (Prod.Lex.right _ ?_)
      exact (Value.size_lt_of_mem_obj ‹_›).trans (Value.size_lt_of_get? ‹_›)

end Conform
