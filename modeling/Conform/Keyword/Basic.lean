import Conform.Keyword.Builders
import Conform.Vocabulary.Basic

/-!
The known keywords, in the order in which they are judged.
-/
namespace Conform

inductive Keyword where
  | additionalItems | additionalProperties | dependencies | disallow | divisibleBy | enum
  | extending | format | items | maximum | maxItems | maxLength | minimum | minItems | minLength
  | pattern | patternProperties | properties | type | uniqueItems | reference
  deriving DecidableEq, Repr

namespace Keyword

def all : List Keyword :=
  [.additionalItems, .additionalProperties, .dependencies, .disallow, .divisibleBy, .enum,
    .extending, .format, .items, .maximum, .maxItems, .maxLength, .minimum, .minItems, .minLength,
    .pattern, .patternProperties, .properties, .type, .uniqueItems, .reference]

def name : Keyword → String
  | .additionalItems => "additionalItems"
  | .additionalProperties => "additionalProperties"
  | .dependencies => "dependencies"
  | .disallow => "disallow"
  | .divisibleBy => "divisibleBy"
  | .enum => "enum"
  | .extending => "extends"
  | .format => "format"
  | .items => "items"
  | .maximum => "maximum"
  | .maxItems => "maxItems"
  | .maxLength => "maxLength"
  | .minimum => "minimum"
  | .minItems => "minItems"
  | .minLength => "minLength"
  | .pattern => "pattern"
  | .patternProperties => "patternProperties"
  | .properties => "properties"
  | .type => "type"
  | .uniqueItems => "uniqueItems"
  | .reference => "$ref"

def kinds : Keyword → List Kind
  | .additionalItems | .items | .maxItems | .minItems | .uniqueItems => [.array]
  | .additionalProperties | .patternProperties | .properties => [.object]
  | .divisibleBy | .maximum | .minimum => [.integer, .number]
  | .maxLength | .minLength | .pattern => [.string]
  | .dependencies | .disallow | .enum | .extending | .format | .type | .reference => Kind.all

/-- What the keyword of a node asks for. -/
def build : Keyword → Members → Except Fault Built
  | .additionalItems => additionalItemsBuilder
  | .additionalProperties => additionalPropertiesBuilder
  | .dependencies => dependenciesBuilder
  | .disallow => typesBuilder "disallow" true
  | .divisibleBy => divisibleByBuilder
  | .enum => enumBuilder
  | .extending => extendingBuilder
  | .format => formatBuilder
  | .items => itemsBuilder
  | .maximum => boundBuilder "maximum" "exclusiveMaximum" false
  | .maxItems => itemCountBuilder "maxItems" false
  | .maxLength => textLengthBuilder "maxLength" false
  | .minimum => boundBuilder "minimum" "exclusiveMinimum" true
  | .minItems => itemCountBuilder "minItems" true
  | .minLength => textLengthBuilder "minLength" true
  | .pattern => patternBuilder
  | .patternProperties => patternPropertiesBuilder
  | .properties => propertiesBuilder
  | .type => typesBuilder "type" false
  | .uniqueItems => uniqueItemsBuilder
  | .reference => referenceBuilder

/-- An unknown format is worth a note. -/
def notes : Built → List Note
  | .logic (.unknownFormat name) =>
    [⟨"keywords.formats", .debug, "unknown format attribute", [("format", .str name)]⟩]
  | _ => []

def builder (k : Keyword) : Builder := fun s =>
  match s.node.bind k.build with
  | .ok b => (notes b, .ok b)
  | .error f => ([], .error f)

def ofName? (s : String) : Option Keyword := all.find? (·.name == s)

end Keyword

namespace Vocabulary

def insertKeyword (v : Vocabulary) (k : Keyword) : Vocabulary := v.insert k.name k.kinds k.builder

/-- Registers the known keywords, or those of them that `only` lists. -/
def insertKnown (v : Vocabulary) (only : Option (List String)) : Vocabulary :=
  (Keyword.all.filter fun k => (only.map (·.contains k.name)).getD true).foldl insertKeyword v

theorem forall_foldl_insertKeyword {P : Entry → Prop} {v : Vocabulary} {ks : List Keyword}
    (hv : ∀ x ∈ v.entries, P x)
    (hks : ∀ k ∈ ks, ∀ place, P ⟨k.name, k.kinds, k.builder, place⟩) :
    ∀ x ∈ (ks.foldl insertKeyword v).entries, P x := by
  -- on the keywords: each is entered over what the ones before it have left
  induction ks generalizing v with
  | nil => exact hv
  | cons k ks ih =>
    obtain ⟨hk, hks⟩ := List.forall_mem_cons.mp hks
    exact ih (forall_put hv hk) hks

/-- What holds of the entries of all listed keywords holds of what is registered. -/
theorem forall_insertKnown {P : Entry → Prop} {only : Option (List String)}
    (h : ∀ k : Keyword, (∀ names, only = some names → k.name ∈ names) →
      ∀ place, P ⟨k.name, k.kinds, k.builder, place⟩) :
    ∀ x ∈ (insertKnown {} only).entries, P x := by
  apply forall_foldl_insertKeyword
  · intro x hx
    cases hx
  · intro k hk
    apply h k
    rintro names rfl
    have hlisted : names.contains k.name = true := (List.mem_filter.mp hk).2
    exact List.contains_iff_mem.mp hlisted

/-- The vocabulary of the known keywords. -/
def known : Vocabulary := insertKnown {} none

end Vocabulary

end Conform
