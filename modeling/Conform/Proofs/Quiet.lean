import Conform.Proofs.Faults
import Conform.Proofs.Members

/-!
Quiet nodes: they ask of a value that it is of a named type, within limits or one of some values,
and has certain members, and lead to no node but those of declared members. Judging by such a node
fails on a foreign value, and where a limit or a list of values is missed by a value that cannot be
quoted.
-/
namespace Conform

namespace Keyword

theorem ofName?_name_eq (k : Keyword) : ofName? k.name = some k := by
  cases k <;> rfl

theorem name_injective : Function.Injective name := by
  intro k l h
  have hk := ofName?_name_eq k
  rw [h, ofName?_name_eq l] at hk
  exact (Option.some.inj hk).symm

/-- The keywords that quiet nodes may have. -/
def isQuiet : Keyword → Bool
  | .additionalProperties | .enum | .maximum | .minimum | .properties | .type => true
  | _ => false

end Keyword

/-- A node that can be used and looks no further than the names of members. -/
structure Quiet (node : Members) : Prop where
  ne_nil : node ≠ []
  keywords : ∀ (k : Keyword) w, node.get? k.name = some w → k.isQuiet ∧ k.Accepts node w
  type : ∀ w, node.get? "type" = some w → w.IsText
  closed : ∀ ms, node.get? "additionalProperties" ≠ some (.obj ms)

/-- A node with a keyword that does not hold of a value, for which the complaint cannot be written. -/
def Hides (node : Members) (v : Value) : Prop :=
  ∃ (k : Keyword) (w : Value), node.get? k.name = some w ∧ k.Applies v ∧ ¬ k.Holds node w v ∧
    k.Unwritten w v

namespace Quiet

variable {d : Documents} {uri : String} {seen : List Location} {node : Members} {v : Value}
  {f : Fault}

theorem absent (h : Quiet node) {k : Keyword} (hk : k.isQuiet = false) :
    node.get? k.name = none := by
  apply Option.eq_none_iff_forall_ne_some.mpr
  intro w hw
  have hquiet := (h.keywords k w hw).1
  rw [hk] at hquiet
  cases hquiet

theorem usable (h : Quiet node) : Usable node v := fun k w hw _ => (h.keywords k w hw).2

/-- Only declared members have a node. -/
theorem governs_iff (h : Quiet node) {token : Token} {t : Value} :
    Governs node token t ↔ ∃ name ps, token = .name name ∧
      node.get? "properties" = some (.obj ps) ∧ Members.get? ps name = some t := by
  have hitems : node.get? "items" = none := h.absent (k := .items) rfl
  have hpatterns : node.get? "patternProperties" = none := h.absent (k := .patternProperties) rfl
  constructor
  · intro hg
    cases hg with
    | everyItem hi => cases hitems.symm.trans hi
    | item hi => cases hitems.symm.trans hi
    | furtherItem hi => cases hitems.symm.trans hi
    | property hps hp => exact ⟨_, _, rfl, hps, hp⟩
    | matched hn =>
      obtain ⟨ps, hps, _⟩ := hn
      cases hpatterns.symm.trans hps
    | further _ hf => exact absurd hf (h.closed _)
  · intro h
    obtain ⟨name, ps, rfl, hps, hp⟩ := h
    exact .property hps hp

/-- Judging by a quiet node fails on foreign values and with complaints that cannot be written, at
the place or below. -/
theorem escapes_iff (h : Quiet node) : Escapes d uri seen (.obj node) v f ↔
    Kind.classify v = .error f ∨ (f = .unwritable ∧ Hides node v) ∨
      ∃ c ∈ v.children, ∃ t, Governs node c.1 t ∧ Escapes d uri [] t c.2 f := by
  have habsent {k : Keyword} {w : Value} (hk : k.isQuiet = false) :
      node.get? k.name ≠ some w := by
    rw [h.absent hk]
    exact Option.some_ne_none w |>.symm
  constructor
  · intro hescapes
    cases hescapes with
    | foreign _ hk => exact .inl hk
    | unwritten _ hw ha hholds hlong => exact .inr (.inl ⟨rfl, _, _, hw, ha, hholds, hlong⟩)
    | pattern _ hw => exact absurd hw (habsent (k := .pattern) rfl)
    | regex _ hw => exact absurd hw (habsent (k := .format) rfl)
    | name _ _ _ hn =>
      obtain ⟨ps, hps, _⟩ := hn
      exact absurd hps (habsent (k := .patternProperties) rfl)
    | unreadable _ hw => exact absurd hw (habsent (k := .reference) rfl)
    | target _ hw => exact absurd hw (habsent (k := .reference) rfl)
    | extending _ hw => exact absurd hw (habsent (k := .extending) rfl)
    | dependency _ hw => exact absurd hw (habsent (k := .dependencies) rfl)
    | trial _ hk hw _ hl =>
      rcases hk with rfl | rfl
      · -- a type that is named lists no schema to try
        obtain ⟨t, rfl⟩ := h.type _ hw
        simp [Value.schemas, Value.listed] at hl
      · exact absurd hw (habsent (k := .disallow) rfl)
    | child _ hc hg hbelow => exact .inr (.inr ⟨_, hc, _, hg, hbelow⟩)
  · intro hcause
    rcases hcause with hk | ⟨rfl, k, w, hw, ha, hholds, hlong⟩ | ⟨c, hc, t, hg, hbelow⟩
    · exact .foreign h.ne_nil hk
    · exact .unwritten h.usable hw ha hholds hlong
    · exact .child h.usable hc hg hbelow

/-- What a quiet node asks of a value and of its members. -/
theorem satisfies_iff (h : Quiet node) : Satisfies d uri seen (.obj node) v ↔
    (∀ (k : Keyword) w, node.get? k.name = some w → k.Applies v → k.Holds node w v) ∧
      (∀ t, node.get? "type" = some (.str t) → Kind.holds (.str t) v = .ok true) ∧
      ∀ c ∈ v.children, ∀ t, Governs node c.1 t → Satisfies d uri [] t c.2 := by
  have htype {t : String} : Keyword.type.Nested d uri seen (.str t) v ↔
      Kind.holds (.str t) v = .ok true := by
    simp [Keyword.Nested, IsOfTypes, Value.names, Value.listed, Satisfies]
  rw [satisfies_obj]
  constructor
  · intro hsat
    obtain ⟨hown, hnested, hchildren⟩ := hsat
    exact ⟨fun k w hw ha => (hown k w hw ha).2, fun t ht => htype.mp (hnested .type _ ht),
      hchildren⟩
  · intro hsat
    obtain ⟨hholds, hname, hchildren⟩ := hsat
    refine ⟨fun k w hw ha => ⟨(h.keywords k w hw).2, hholds k w hw ha⟩, ?_, hchildren⟩
    intro k w hw
    have hquiet := (h.keywords k w hw).1
    cases k with
    | type =>
      obtain ⟨t, rfl⟩ := h.type w hw
      exact htype.mpr (hname t hw)
    | additionalProperties | enum | maximum | minimum | properties => trivial
    | _ => cases hquiet

end Quiet

end Conform
