import Conform.Proofs.Answered
import Conform.Proofs.Scoping
import Conform.Proofs.Undeclared

/-!
Closed nodes. A node that allows no other members, or no further elements, comes to the same verdict
as one that has a schema for them which nothing satisfies: what the one finds on the whole object
or array, the other finds on the children without another schema.
-/
namespace Conform

/-- The schema that no value satisfies. -/
def denial : Members := [("disallow", .str "any")]

namespace Setting

variable {e : Setting} {J : Judge} {s : Site} {node : Members} {kind : Kind}

/-- Whether every keyword of a node answers, and every child under every schema for it. -/
structure Settles (e : Setting) (J : Judge) (s : Site) (node : Members) (kind : Kind) : Prop where
  parts : ∀ o ∈ e.parts J s node kind, ∃ b, o.verdict = .ok b
  schemas : ∀ c ∈ s.value.children, ∃ ts, ChildSchema.ofKind kind node c.1 = .ok ts

/-- A node that can be used has a verdict just where all its parts have, and joins theirs. -/
theorem round_verdict_iff (hv : e.vocabulary = .known) (hJ : J.Uniform)
    (hs : s.schema = .obj node) (hk : s.kind = .ok kind)
    (hbuilt : ∀ k ∈ Keyword.selected node kind, ∃ b, k.build node = .ok b) {y : Bool} :
    (e.round J s).outcome.verdict = .ok y ↔
      e.Settles J s node kind ∧ y = (e.parts J s node kind).all Outcome.holds := by
  constructor
  · intro h
    obtain ⟨hparts, hschemas, _, hy⟩ := round_answered hv hJ hs hk hbuilt h
    exact ⟨⟨hparts, hschemas⟩, hy⟩
  · rintro ⟨hsettles, rfl⟩
    obtain ⟨hkeywords, hbelow⟩ := List.forall_mem_append.mp hsettles.parts
    obtain ⟨ns, hround⟩ := round_built hv hJ hs hk hbuilt
    obtain ⟨ns', hdescent⟩ :=
      Checker.descent_of_descends (e := e) hJ hs hk ⟨hsettles.schemas, hbelow⟩
    rw [hround, Outcome.verdict_after, hdescent, Outcome.verdict_andThen_after]
    exact (Outcome.all_append_of_answers hkeywords hbelow).2

theorem forall_parts_iff {P : Outcome → Prop} : (∀ o ∈ e.parts J s node kind, P o) ↔
    (∀ k ∈ Keyword.selected node kind, P (k.outcome e J s node)) ∧
      ∀ c ∈ s.value.children, ∀ t ∈ ChildSchema.found kind node c.1,
        P (J (s.child t.schema c.2 c.1 t.steps)).outcome := by
  simp only [parts, Checker.childOutcomes, List.forall_mem_append, List.forall_mem_map,
    List.forall_mem_flatMap]

/-- Whatever the value, the schema that nothing satisfies says no, and asks nothing of children. -/
theorem round_denial (hv : e.vocabulary = .known) (hJ : J.Uniform) (hs : s.schema = .obj denial)
    (hk : s.kind = .ok kind) : (e.round J s).outcome.verdict = .ok false := by
  have hselected : Keyword.selected denial kind = [.disallow] := by cases kind <;> rfl
  have hbuild : Keyword.disallow.build denial =
      .ok (.logic (.types "disallow" ["any"] [] true)) := rfl
  have hnone (token : Token) : ChildSchema.ofKind kind denial token = .ok [] := by
    cases kind <;> rfl
  -- any value is of type any, so that the only keyword says no
  have hrun : Logic.run e J "disallow" (.types "disallow" ["any"] [] true) s =
      Step.fail (Logic.disallowed s "disallow" ["any"] kind) := by
    funext j
    have hmatches : Logic.matching J "disallow" ["any"] [] s j.notes =
        (j.notes, .ok (true, [])) := rfl
    simp only [Logic.run, Logic.judgeTypes, hmatches, hk]
    rfl
  have houtcome : Keyword.disallow.outcome e J s denial =
      ⟨[], [Logic.disallowed s "disallow" ["any"] kind], .ok false⟩ := by
    have hlogic : Keyword.disallow.outcome e J s denial =
        (Logic.run e J "disallow" (.types "disallow" ["any"] [] true) s).outcome := by
      unfold Keyword.outcome
      rw [hbuild]
      rfl
    rw [hlogic, hrun, Step.outcome_fail]
  have hparts : e.parts J s denial kind =
      [⟨[], [Logic.disallowed s "disallow" ["any"] kind], .ok false⟩] := by
    simp only [parts, hselected, Checker.childOutcomes, ChildSchema.found, hnone, List.map_nil,
      List.map_cons, houtcome]
    simp
  have hbuilt : ∀ k ∈ Keyword.selected denial kind, ∃ b, k.build denial = .ok b := by
    rw [hselected]
    exact List.forall_mem_singleton.mpr ⟨_, hbuild⟩
  rw [round_verdict_iff hv hJ hs hk hbuilt, hparts]
  refine ⟨⟨?_, fun c _ => ⟨[], hnone c.1⟩⟩, rfl⟩
  rw [hparts]
  exact List.forall_mem_singleton.mpr ⟨false, rfl⟩

end Setting

/-- Built alike, a keyword comes to the same at two nodes. -/
theorem Keyword.outcome_congr {k : Keyword} {a b : Members} (h : k.build a = k.build b)
    (e : Setting) (J : Judge) (s : Site) :
    k.outcome e J (s.with a) a = k.outcome e J (s.with b) b := by
  unfold outcome
  rw [h]
  split
  · rename_i l hl
    rw [Logic.run_with hl e J k.name s a b]
  · rfl

/-- Two nodes that differ in the value of a keyword for which the second asks nothing itself. -/
structure Relaxes (kind : Kind) (a b : Members) (k₀ : Keyword) : Prop where
  selected : Keyword.selected a kind = Keyword.selected b kind
  mem : k₀ ∈ Keyword.selected a kind
  build_eq : ∀ k, k ≠ k₀ → k.build a = k.build b
  always : k₀.build b = .ok (.checker .always)

/-- Two such nodes, of which the second denies what the first has no schema for: of the first a
test looks at the whole value, of the second the denial looks at each child that is left over. -/
structure Denies (kind : Kind) (s : Site) (a b : Members) (k₀ : Keyword) : Prop
    extends Relaxes kind a b k₀ where
  built : ∀ k ∈ Keyword.selected a kind, ∃ m, k.build a = .ok m
  children : ∀ c ∈ s.value.children,
    ChildSchema.ofKind kind a c.1 = ChildSchema.ofKind kind b c.1 ∨
      (ChildSchema.ofKind kind a c.1 = .ok [] ∧
        ∃ steps, ChildSchema.ofKind kind b c.1 = .ok [⟨steps, .obj denial⟩])
  test : ∀ e J, (∀ c ∈ s.value.children, ∃ ts, ChildSchema.ofKind kind a c.1 = .ok ts) →
    ∃ y, (k₀.outcome e J (s.with a) a).verdict = .ok y ∧ (y = true ↔ ∀ c ∈ s.value.children,
      ChildSchema.ofKind kind a c.1 = ChildSchema.ofKind kind b c.1)

namespace Denies

variable {e : Setting} {J : Judge} {kind : Kind} {s : Site} {a b : Members} {k₀ : Keyword}

/-- The schemas can be told for the children of the one where they can for those of the other. -/
theorem schemas_iff (h : Denies kind s a b k₀) :
    (∀ c ∈ s.value.children, ∃ ts, ChildSchema.ofKind kind a c.1 = .ok ts) ↔
      ∀ c ∈ s.value.children, ∃ ts, ChildSchema.ofKind kind b c.1 = .ok ts := by
  refine forall₂_congr fun c hc => ?_
  rcases h.children c hc with hsame | ⟨hnone, steps, hsome⟩
  · rw [hsame]
  · exact iff_of_true ⟨_, hnone⟩ ⟨_, hsome⟩

/-- What holds of all parts of the second node but the denials holds of all parts of the first but
the test. -/
theorem forall_parts_congr (h : Denies kind s a b k₀) {P : Outcome → Prop} (hpass : P .pass) :
    ((∀ o ∈ e.parts J (s.with b) b kind, P o) ↔
      (∀ k ∈ Keyword.selected a kind, k ≠ k₀ → P (k.outcome e J (s.with a) a)) ∧
        ∀ c ∈ s.value.children, ∀ t ∈ ChildSchema.found kind b c.1,
          P (J (s.child t.schema c.2 c.1 t.steps)).outcome) ∧
    ((∀ o ∈ e.parts J (s.with a) a kind, P o) ↔
      (∀ k ∈ Keyword.selected a kind, k ≠ k₀ → P (k.outcome e J (s.with a) a)) ∧
        P (k₀.outcome e J (s.with a) a) ∧
        ∀ c ∈ s.value.children, ∀ t ∈ ChildSchema.found kind a c.1,
          P (J (s.child t.schema c.2 c.1 t.steps)).outcome) := by
  have hothers (k : Keyword) (hk : k ≠ k₀) :
      k.outcome e J (s.with b) b = k.outcome e J (s.with a) a :=
    (Keyword.outcome_congr (h.build_eq k hk) e J s).symm
  have hnothing : k₀.outcome e J (s.with b) b = .pass := by
    unfold Keyword.outcome
    rw [h.always]
  constructor
  · rw [Setting.forall_parts_iff, ← h.selected]
    refine and_congr ?_ Iff.rfl
    constructor
    · intro hall k hk hne
      rw [← hothers k hne]
      exact hall k hk
    · intro hall k hk
      by_cases hne : k = k₀
      · rw [hne, hnothing]
        exact hpass
      · rw [hothers k hne]
        exact hall k hk hne
  · rw [Setting.forall_parts_iff, ← and_assoc]
    refine and_congr ?_ Iff.rfl
    constructor
    · intro hall
      exact ⟨fun k hk _ => hall k hk, hall k₀ h.mem⟩
    · rintro ⟨hall, htest⟩ k hk
      by_cases hne : k = k₀
      · rw [hne]
        exact htest
      · exact hall k hk hne

/-- Children are judged under the same schemas, but for denials. -/
theorem forall_children_iff (h : Denies kind s a b k₀) {P : Outcome → Prop} :
    (∀ c ∈ s.value.children, ∀ t ∈ ChildSchema.found kind b c.1,
        P (J (s.child t.schema c.2 c.1 t.steps)).outcome) ↔
      (∀ c ∈ s.value.children, ∀ t ∈ ChildSchema.found kind a c.1,
        P (J (s.child t.schema c.2 c.1 t.steps)).outcome) ∧
      ∀ c ∈ s.value.children, ∀ steps, ChildSchema.ofKind kind a c.1 = .ok [] →
        ChildSchema.ofKind kind b c.1 = .ok [⟨steps, .obj denial⟩] →
          P (J (s.child (.obj denial) c.2 c.1 steps)).outcome := by
  have hfound {node : Members} {token : Token} {ts : List ChildSchema}
      (hts : ChildSchema.ofKind kind node token = .ok ts) :
      ChildSchema.found kind node token = ts := by
    unfold ChildSchema.found
    rw [hts]
  rw [← forall₂_and]
  refine forall₂_congr fun c hc => ?_
  rcases h.children c hc with hsame | ⟨hnone, steps, hsome⟩
  · have hfounds : ChildSchema.found kind b c.1 = ChildSchema.found kind a c.1 := by
      unfold ChildSchema.found
      rw [hsame]
    rw [hfounds]
    refine (and_iff_left ?_).symm
    intro steps hnone hsome
    rw [hsame, hsome] at hnone
    cases hnone
  · rw [hfound hnone, hfound hsome]
    constructor
    · intro hall
      refine ⟨fun t ht => absurd ht List.not_mem_nil, ?_⟩
      intro steps' _ hsome'
      rw [hsome] at hsome'
      cases hsome'
      exact hall _ (List.mem_singleton_self _)
    · rintro ⟨_, hall⟩ t ht
      obtain rfl := List.mem_singleton.mp ht
      exact hall steps hnone hsome

section Verdict

variable (h : Denies kind s a b k₀)
  (hdeny : ∀ c ∈ s.value.children, ∀ steps,
    (J (s.child (.obj denial) c.2 c.1 steps)).outcome.verdict = .ok false)
include h hdeny

/-- The two nodes settle together: a denial answers, and the test does where the schemas for the
children can be told. -/
theorem settles_iff :
    e.Settles J (s.with a) a kind ↔ e.Settles J (s.with b) b kind := by
  have hpass : ∃ y, Outcome.pass.verdict = .ok y := ⟨true, rfl⟩
  obtain ⟨hb, ha⟩ := h.forall_parts_congr (e := e) (J := J)
    (P := fun o => ∃ y, o.verdict = .ok y) hpass
  have hchildren := h.forall_children_iff (J := J) (P := fun o => ∃ y, o.verdict = .ok y)
  constructor
  · rintro ⟨hparts, hschemas⟩
    obtain ⟨hothers, _, hbelow⟩ := ha.mp hparts
    have hall := hchildren.mpr ⟨hbelow, fun c hc steps _ _ => ⟨false, hdeny c hc steps⟩⟩
    exact ⟨hb.mpr ⟨hothers, hall⟩, h.schemas_iff.mp hschemas⟩
  · rintro ⟨hparts, hschemas⟩
    obtain ⟨hothers, hall⟩ := hb.mp hparts
    have hschemas' := h.schemas_iff.mpr hschemas
    obtain ⟨y, hy, _⟩ := h.test e J hschemas'
    exact ⟨ha.mpr ⟨hothers, ⟨y, hy⟩, (hchildren.mp hall).1⟩, hschemas'⟩

/-- Where both settle they say the same: the test says no just where some child is denied. -/
theorem holds_eq
    (hschemas : ∀ c ∈ s.value.children, ∃ ts, ChildSchema.ofKind kind a c.1 = .ok ts) :
    (e.parts J (s.with a) a kind).all Outcome.holds =
      (e.parts J (s.with b) b kind).all Outcome.holds := by
  obtain ⟨hb, ha⟩ := h.forall_parts_congr (e := e) (J := J) (P := fun o => o.holds = true) rfl
  have hchildren := h.forall_children_iff (J := J) (P := fun o => o.holds = true)
  obtain ⟨y, hy, hiff⟩ := h.test e J hschemas
  have htest : (k₀.outcome e J (s.with a) a).holds = y := Outcome.holds_of_ok hy
  rw [Bool.eq_iff_iff, List.all_eq_true, List.all_eq_true, ha, hb, hchildren]
  refine and_congr_right fun _ => ?_
  rw [and_comm, htest, hiff]
  refine and_congr_right fun _ => ?_
  constructor
  · intro hsame c hc steps hnone hsome
    rw [hsame c hc, hsome] at hnone
    cases hnone
  · intro hnever c hc
    rcases h.children c hc with hsame | ⟨hnone, steps, hsome⟩
    · exact hsame
    · have hyes := hnever c hc steps hnone hsome
      rw [Outcome.holds_of_ok (hdeny c hc steps)] at hyes
      cases hyes

/-- Nodes that can be used come to the same verdict. -/
theorem round_verdict_iff (hv : e.vocabulary = .known) (hJ : J.Uniform) (hk : s.kind = .ok kind)
    {y : Bool} : (e.round J (s.with a)).outcome.verdict = .ok y ↔
      (e.round J (s.with b)).outcome.verdict = .ok y := by
  have hbuilt : ∀ k ∈ Keyword.selected b kind, ∃ m, k.build b = .ok m := by
    intro k hsel
    by_cases hne : k = k₀
    · exact ⟨_, by rw [hne, h.always]⟩
    · rw [← h.build_eq k hne]
      rw [← h.selected] at hsel
      exact h.built k hsel
  have hka : (s.with a).kind = .ok kind := hk
  have hkb : (s.with b).kind = .ok kind := hk
  have ha := Setting.round_verdict_iff (y := y) hv hJ rfl hka h.built
  have hb := Setting.round_verdict_iff (y := y) hv hJ rfl hkb hbuilt
  rw [ha, hb, ← h.settles_iff hdeny]
  refine and_congr_right fun hsettles => ?_
  rw [h.holds_eq hdeny hsettles.schemas]

end Verdict

end Denies

/-- Where a keyword that the two nodes share cannot be built, both say no. -/
theorem Relaxes.round_verdict_iff {e : Setting} {J : Judge} {kind : Kind} {s : Site}
    {a b : Members} {k₀ : Keyword} (h : Relaxes kind a b k₀) (hv : e.vocabulary = .known)
    (hJ : J.Uniform) (hk : s.kind = .ok kind)
    (hdeny : ∀ c ∈ s.value.children, ∀ steps,
      (J (s.child (.obj denial) c.2 c.1 steps)).outcome.verdict = .ok false)
    (hdenies : (∀ k ∈ Keyword.selected a kind, k ≠ k₀ → ∃ m, k.build a = .ok m) →
      Denies kind s a b k₀) {y : Bool} :
    (e.round J (s.with a)).outcome.verdict = .ok y ↔
      (e.round J (s.with b)).outcome.verdict = .ok y := by
  by_cases hothers : ∀ k ∈ Keyword.selected a kind, k ≠ k₀ → ∃ m, k.build a = .ok m
  · exact (hdenies hothers).round_verdict_iff hdeny hv hJ hk
  · push Not at hothers
    obtain ⟨k, hsel, hne, hfail⟩ := hothers
    have hsel' : k ∈ Keyword.selected b kind := by
      rw [← h.selected]
      exact hsel
    have hfail' : ∀ m, k.build b ≠ .ok m := by
      rw [← h.build_eq k hne]
      exact hfail
    obtain ⟨_, _, _, ha⟩ := Setting.round_unbuilt hv hJ (s := s.with a) rfl hk hsel hfail
    obtain ⟨_, _, _, hb⟩ := Setting.round_unbuilt hv hJ (s := s.with b) rfl hk hsel' hfail'
    rw [ha, hb]

/-- What stands for a prohibition of other children is a schema for them that nothing satisfies. -/
def Members.denying (node : Members) (k : Keyword) : Members := node.put k.name (.obj denial)

/-- A test that says what it finds says yes when it finds nothing. -/
theorem Logic.verdict_of_finding {t : Test} {s : Site} {r : Option Diagnostic}
    (h : t.finding s = .ok r) : (judgeTest t s).outcome.verdict = .ok r.isNone := by
  unfold judgeTest
  rw [h]
  cases r with
  | none => rw [Step.outcome_answer]; rfl
  | some d => rw [Step.outcome_fail]; rfl

theorem verdict_test_outcome {k : Keyword} {node : Members} {t : Test}
    (h : k.build node = .ok (Keyword.asTest t)) (e : Setting) (J : Judge) (s : Site) :
    (k.outcome e J s node) = (Logic.judgeTest t s).outcome := by
  unfold Keyword.outcome
  rw [h]
  rfl

/-- A node that allows no other members is built to the test for them. -/
theorem Keyword.closed_of_build {node : Members} {b : Built}
    (hno : node.get? "additionalProperties" = some (.bool false))
    (hb : additionalProperties.build node = .ok b) : ∃ declared sources ps,
      ownOr node "properties" (.obj []) = .obj declared ∧
      ownOr node "patternProperties" (.obj []) = .obj sources ∧
      patterns (Members.keys sources) = .ok ps ∧
      b = asTest (.closed (Members.keys declared) ps) := by
  obtain ⟨w, hw, ⟨hopen, _⟩ | ⟨_, hclosed⟩⟩ := additionalPropertiesBuilder_ok.mp hb
  · obtain rfl : .bool false = w := Option.some.inj (hno.symm.trans hw)
    rcases hopen with ⟨ns, hns⟩ | htrue
    · cases hns
    · cases htrue
  · exact hclosed

section Instances

variable {node : Members} {s : Site}

theorem get?_denying_of_ne (node : Members) {k : Keyword} {name : String} (h : name ≠ k.name) :
    (node.denying k).get? name = node.get? name :=
  Members.get?_put_of_ne node _ h.symm

theorem ofMember_of_false {k : Keyword} (hno : node.get? k.name = some (.bool false)) :
    ChildSchema.ofMember node k.name = [] := by
  unfold ChildSchema.ofMember
  rw [hno]

theorem ofMember_denying (node : Members) (k : Keyword) :
    ChildSchema.ofMember (node.denying k) k.name = [⟨[.name k.name], .obj denial⟩] := by
  have hget : (node.denying k).get? k.name = some (.obj denial) := Members.get?_put node _ _
  unfold ChildSchema.ofMember
  rw [hget]

/-- No other keyword reads the value of either of the two. -/
theorem ne_of_reads : ∀ k₀ ∈ [Keyword.additionalProperties, .additionalItems], ∀ k ∈ Keyword.all,
    k ≠ k₀ → ∀ name ∈ k.reads, name ≠ k₀.name := by
  decide

theorem relaxes_denying {kind : Kind} {k₀ : Keyword}
    (hk₀ : k₀ ∈ [Keyword.additionalProperties, .additionalItems]) (hkind : kind ∈ k₀.kinds)
    (hno : node.get? k₀.name = some (.bool false)) :
    Relaxes kind node (node.denying k₀) k₀ where
  selected := by
    have hkeys : Members.keys (node.denying k₀) = Members.keys node :=
      Members.keys_put_of_mem _ (Members.mem_keys_of_get? hno)
    unfold Keyword.selected
    rw [hkeys]
  mem := Keyword.mem_selected.mpr ⟨⟨_, hno⟩, hkind⟩
  build_eq := by
    intro k hne
    apply Keyword.build_congr
    intro name hname
    exact (get?_denying_of_ne node (ne_of_reads k₀ hk₀ k k.mem_all hne name hname)).symm
  always := by
    have hget : (node.denying k₀).get? k₀.name = some (.obj denial) := Members.get?_put node _ _
    simp only [List.mem_cons, List.not_mem_nil, or_false] at hk₀
    rcases hk₀ with rfl | rfl
    · exact Keyword.additionalPropertiesBuilder_ok.mpr ⟨_, hget, .inl ⟨.inl ⟨_, rfl⟩, rfl⟩⟩
    · refine Keyword.additionalItemsBuilder_ok.mpr ⟨_, hget, .inr ⟨_, rfl⟩, .inr ⟨?_, rfl⟩⟩
      intro xs hfalse
      cases hfalse

/-- The schemas for a child at a node and at the node that denies other children: the same, and
some, or none and the denial. -/
def Divided (kind : Kind) (node : Members) (k : Keyword) (token : Token) : Prop :=
  (ChildSchema.ofKind kind node token ≠ .ok [] ∧
    ChildSchema.ofKind kind node token = ChildSchema.ofKind kind (node.denying k) token) ∨
  (ChildSchema.ofKind kind node token = .ok [] ∧
    ChildSchema.ofKind kind (node.denying k) token = .ok [⟨[.name k.name], .obj denial⟩])

theorem Divided.same_iff {kind : Kind} {k : Keyword} {token : Token}
    (h : Divided kind node k token) :
    ChildSchema.ofKind kind node token = ChildSchema.ofKind kind (node.denying k) token ↔
      ChildSchema.ofKind kind node token ≠ .ok [] := by
  rcases h with ⟨hne, hsame⟩ | ⟨hnone, hdenied⟩
  · exact iff_of_true hsame hne
  · refine iff_of_false ?_ fun hne => hne hnone
    rw [hnone, hdenied]
    intro hboth
    cases hboth

/-- A member without a schema is denied, and no other. -/
theorem divided_member (hno : node.get? "additionalProperties" = some (.bool false))
    (name : String) : Divided .object node .additionalProperties (.name name) := by
  have hproperties : (node.denying .additionalProperties).get? "properties" =
      node.get? "properties" := get?_denying_of_ne node (by decide)
  have hpatterns : (node.denying .additionalProperties).get? "patternProperties" =
      node.get? "patternProperties" := get?_denying_of_ne node (by decide)
  have hnone : ChildSchema.ofMember node "additionalProperties" = [] :=
    ofMember_of_false (k := .additionalProperties) hno
  have hdenial : ChildSchema.ofMember (node.denying .additionalProperties) "additionalProperties" =
      [⟨[.name "additionalProperties"], .obj denial⟩] := ofMember_denying node _
  simp only [Divided, ChildSchema.ofKind, ChildSchema.forMember, ChildSchema.patterned,
    ChildSchema.declared, hproperties, hpatterns, hnone, hdenial]
  -- both look for the same schemas first
  generalize Except.map _ _ = found
  cases found with
  | error f => exact .inl ⟨fun h => (by cases h), rfl⟩
  | ok ts =>
    cases ts with
    | nil => exact .inr ⟨rfl, rfl⟩
    | cons t ts => exact .inl ⟨fun h => (by cases h), rfl⟩

/-- No member is unwanted just where none is denied. -/
theorem unwanted_eq_nil_iff (hno : node.get? "additionalProperties" = some (.bool false))
    {ms : Members} : Test.unwanted node ms = [] ↔
      ∀ m ∈ ms, ChildSchema.ofKind .object node (.name m.1) =
        ChildSchema.ofKind .object (node.denying .additionalProperties) (.name m.1) := by
  have hnone : Test.unwanted node ms = [] ↔
      ∀ m ∈ ms, ChildSchema.ofKind .object node (.name m.1) ≠ .ok [] := by
    rw [List.eq_nil_iff_forall_not_mem]
    simp only [Test.mem_unwanted, not_and]
    exact List.forall_mem_map
  exact hnone.trans (forall₂_congr fun m _ => (divided_member hno m.1).same_iff.symm)

theorem built_of_others {kind : Kind} {k₀ : Keyword} (hown : ∃ m, k₀.build node = .ok m)
    (hothers : ∀ k ∈ Keyword.selected node kind, k ≠ k₀ → ∃ m, k.build node = .ok m) :
    ∀ k ∈ Keyword.selected node kind, ∃ m, k.build node = .ok m := by
  intro k hsel
  by_cases hne : k = k₀
  · rw [hne]
    exact hown
  · exact hothers k hsel hne

theorem denies_object (hno : node.get? "additionalProperties" = some (.bool false))
    (hk : s.kind = .ok .object)
    (hothers : ∀ k ∈ Keyword.selected node .object, k ≠ .additionalProperties →
      ∃ m, k.build node = .ok m) :
    Denies .object s node (node.denying .additionalProperties) .additionalProperties := by
  have hrelaxes : Relaxes .object node (node.denying .additionalProperties)
      .additionalProperties := relaxes_denying (by decide) (by decide) hno
  -- what the sibling keywords accept is all that the builder asks of them
  have haccepts : Keyword.additionalProperties.Accepts node (.bool false) := by
    refine .inr (.inr ⟨rfl, ?_, ?_⟩)
    · intro ps hps
      have hsel : .properties ∈ Keyword.selected node .object :=
        Keyword.mem_selected.mpr ⟨⟨ps, hps⟩, by decide⟩
      have hmap := ((Keyword.build_isOk (k := .properties) hps).mp
        (hothers .properties hsel (by decide))).1
      obtain ⟨ms, rfl, _⟩ := hmap
      exact ⟨ms, rfl⟩
    · intro ps hps
      have hsel : .patternProperties ∈ Keyword.selected node .object :=
        Keyword.mem_selected.mpr ⟨⟨ps, hps⟩, by decide⟩
      obtain ⟨hmap, hpatterns⟩ := (Keyword.build_isOk (k := .patternProperties) hps).mp
        (hothers .patternProperties hsel (by decide))
      obtain ⟨ms, rfl, _⟩ := hmap
      exact ⟨ms, rfl, hpatterns ms rfl⟩
  have hbuilt : ∃ m, Keyword.additionalProperties.build node = .ok m :=
    (Keyword.build_isOk hno).mpr haccepts
  obtain ⟨ms, hv⟩ := Value.eq_obj_of_kind (Kind.classify_ok.mp hk)
  have hchildren : s.value.children = ms.map fun m => (.name m.1, m.2) := by rw [hv]; rfl
  refine { hrelaxes with built := built_of_others hbuilt hothers, children := ?_, test := ?_ }
  · rw [hchildren]
    intro c hc
    obtain ⟨m, _, rfl⟩ := List.mem_map.mp hc
    rcases divided_member hno m.1 with ⟨_, hsame⟩ | ⟨hnone, hsome⟩
    · exact .inl hsame
    · exact .inr ⟨hnone, _, hsome⟩
  · intro e J hschemas
    obtain ⟨m, hm⟩ := hbuilt
    obtain ⟨declared, sources, ps, hd, hs, hp, rfl⟩ := Keyword.closed_of_build hno hm
    have hvalue : (s.with node).value = .obj ms := hv
    have hmembers : ∀ m ∈ ms, ∃ ts, ChildSchema.ofKind .object node (.name m.1) = .ok ts := by
      intro m hmem
      apply hschemas (.name m.1, m.2)
      rw [hchildren]
      exact List.mem_map_of_mem hmem
    obtain ⟨r, hr⟩ := Test.exists_closed_finding hno hd hs hp hvalue hmembers
    have hfound := Test.closed_finding hno hd hs hp hvalue hr
    refine ⟨r.isNone, ?_, ?_⟩
    · rw [verdict_test_outcome hm, Logic.verdict_of_finding hr]
    · have hnone : r.isNone = true ↔ Test.unwanted node ms = [] := by
        rw [hfound]
        cases Test.unwanted node ms <;> simp
      rw [hnone, hchildren, List.forall_mem_map, unwanted_eq_nil_iff hno]

/-- Beyond the end of a list of schemas an element is denied, and nowhere else. -/
theorem divided_element {xs : List Value} (hitems : node.get? "items" = some (.arr xs))
    (hno : node.get? "additionalItems" = some (.bool false)) (i : Nat) :
    Divided .array node .additionalItems (.index i) := by
  have hbare := ChildSchema.forElement_of_false hitems hno i
  have hitems' : (node.denying .additionalItems).get? "items" = some (.arr xs) := by
    rw [get?_denying_of_ne node (by decide), hitems]
  have hdenial : ChildSchema.ofMember (node.denying .additionalItems) "additionalItems" =
      [⟨[.name "additionalItems"], .obj denial⟩] := ofMember_denying node .additionalItems
  by_cases hle : xs.length ≤ i
  · refine .inr ⟨hbare.mpr hle, ?_⟩
    simp only [ChildSchema.ofKind, ChildSchema.forElement, hitems', Value.elements?,
      ChildSchema.position, hdenial]
    change (if (i : Int) < xs.length then _ else _) = _
    rw [if_neg (by omega)]
    rfl
  · refine .inl ⟨fun hnil => hle (hbare.mp hnil), ?_⟩
    simp only [ChildSchema.ofKind, ChildSchema.forElement, hitems, hitems', Value.elements?,
      ChildSchema.position]
    change (if (i : Int) < xs.length then _ else _) = (if (i : Int) < xs.length then _ else _)
    rw [if_pos (by omega), if_pos (by omega)]

theorem forall_elements_iff {ys : List Value} {P : Token → Prop} :
    (∀ c ∈ (Value.arr ys).children, P c.1) ↔ ∀ i < ys.length, P (.index i) := by
  constructor
  · intro h i hi
    have hat : (ys[i], i) ∈ ys.zipIdx :=
      List.mk_mem_zipIdx_iff_getElem?.mpr (List.getElem?_eq_getElem hi)
    exact h (.index i, ys[i]) (List.mem_map.mpr ⟨_, hat, rfl⟩)
  · intro h c hc
    obtain ⟨i, hi, hat⟩ := Value.index_of_mem_children hc
    obtain ⟨hlt, _⟩ := List.getElem?_eq_some_iff.mp hat
    rw [hi]
    exact h i hlt

/-- An array is no longer than the list of schemas just where no element is denied. -/
theorem length_le_iff {xs ys : List Value} (hitems : node.get? "items" = some (.arr xs))
    (hno : node.get? "additionalItems" = some (.bool false)) :
    ys.length ≤ xs.length ↔ ∀ c ∈ (Value.arr ys).children,
      ChildSchema.ofKind .array node c.1 =
        ChildSchema.ofKind .array (node.denying .additionalItems) c.1 := by
  have hnone : ys.length ≤ xs.length ↔
      ∀ i < ys.length, ChildSchema.ofKind .array node (.index i) ≠ .ok [] := by
    rw [← not_lt, ← ChildSchema.exists_bare_iff hitems hno]
    push Not
    rfl
  rw [hnone, forall_elements_iff
    (P := fun token => ChildSchema.ofKind .array node token =
      ChildSchema.ofKind .array (node.denying .additionalItems) token)]
  exact forall₂_congr fun i _ => (divided_element hitems hno i).same_iff.symm

theorem denies_array (hno : node.get? "additionalItems" = some (.bool false))
    (hk : s.kind = .ok .array)
    (hothers : ∀ k ∈ Keyword.selected node .array, k ≠ .additionalItems →
      ∃ m, k.build node = .ok m) :
    Denies .array s node (node.denying .additionalItems) .additionalItems := by
  have hrelaxes : Relaxes .array node (node.denying .additionalItems) .additionalItems :=
    relaxes_denying (by decide) (by decide) hno
  have haccepts : Keyword.additionalItems.Accepts node (.bool false) := .inl ⟨false, rfl⟩
  have hbuilt : ∀ k ∈ Keyword.selected node .array, ∃ m, k.build node = .ok m :=
    built_of_others ((Keyword.build_isOk hno).mpr haccepts) hothers
  obtain ⟨ys, hv⟩ := Value.eq_arr_of_kind (Kind.classify_ok.mp hk)
  by_cases htuple : ∃ xs, node.get? "items" = some (.arr xs)
  · obtain ⟨xs, hitems⟩ := htuple
    have hbuild : Keyword.additionalItems.build node =
        .ok (Keyword.asTest (.tupleLength xs.length)) :=
      Keyword.additionalItemsBuilder_ok.mpr ⟨_, hno, .inl ⟨_, rfl⟩, .inl ⟨xs, rfl, hitems, rfl⟩⟩
    refine { hrelaxes with built := hbuilt, children := ?_, test := ?_ }
    · rw [hv]
      intro c hc
      obtain ⟨i, hi, _⟩ := Value.index_of_mem_children hc
      rw [hi]
      rcases divided_element hitems hno i with ⟨_, hsame⟩ | ⟨hnone, hsome⟩
      · exact .inl hsame
      · exact .inr ⟨hnone, _, hsome⟩
    · intro e J _
      have hvalue : (s.with node).value = .arr ys := hv
      cases hr : (Test.tupleLength xs.length).finding (s.with node) with
      | error f => exact absurd hr (Test.tells_tupleLength hvalue).ne_error
      | ok r =>
        refine ⟨r.isNone, ?_, ?_⟩
        · rw [verdict_test_outcome hbuild, Logic.verdict_of_finding hr]
        · have hnone : r.isNone = true ↔ ys.length ≤ xs.length := by
            rw [← (Test.tells_tupleLength hvalue).none_iff hr]
            cases r <;> simp
          rw [hnone, hv, length_le_iff hitems hno]
  · -- without a list of schemas the value of the keyword is never looked at
    have hsame (token : Token) : ChildSchema.ofKind .array node token =
        ChildSchema.ofKind .array (node.denying .additionalItems) token := by
      have hitems : (node.denying .additionalItems).get? "items" = node.get? "items" :=
        get?_denying_of_ne node (by decide)
      simp only [ChildSchema.ofKind, ChildSchema.forElement, hitems]
      cases hw : node.get? "items" with
      | none => rfl
      | some w =>
        rcases Keyword.isSchemaList_items hbuilt hw with ⟨ms, rfl⟩ | ⟨xs, rfl, _⟩
        · rfl
        · exact absurd ⟨xs, hw⟩ htuple
    have hbuild : Keyword.additionalItems.build node = .ok (.checker .always) := by
      refine Keyword.additionalItemsBuilder_ok.mpr ⟨_, hno, .inl ⟨_, rfl⟩, .inr ⟨?_, rfl⟩⟩
      intro xs _ hitems
      exact htuple ⟨xs, hitems⟩
    refine { hrelaxes with
      built := hbuilt
      children := fun c _ => .inl (hsame c.1)
      test := ?_ }
    intro e J _
    refine ⟨true, ?_, by simp [hsame]⟩
    unfold Keyword.outcome
    rw [hbuild]
    rfl

end Instances

namespace Setting

variable {e : Setting} {s : Site} {kind : Kind} {node : Members} {k₀ : Keyword}

/-- With fuel for the children, denying other children comes to the verdict of allowing none. -/
theorem judge_denying (hv : e.vocabulary = .known)
    (hk₀ : k₀ ∈ [Keyword.additionalProperties, .additionalItems])
    (hno : node.get? k₀.name = some (.bool false)) (hk : s.kind = .ok kind)
    (hchildren : ∀ c ∈ s.value.children, ∃ kind, Kind.classify c.2 = .ok kind) (fuel : Nat)
    (j : Journal) (y : Bool) : (e.judge (fuel + 2) (s.with node) j).2 = .ok y ↔
      (e.judge (fuel + 2) (s.with (node.denying k₀)) j).2 = .ok y := by
  by_cases hkind : kind ∈ k₀.kinds
  · have hJ := e.uniform_judge (fuel + 1)
    have hdeny : ∀ c ∈ s.value.children, ∀ steps,
        (e.judge (fuel + 1) (s.child (.obj denial) c.2 c.1 steps)).outcome.verdict =
          .ok false := by
      intro c hc steps
      obtain ⟨kind', hkind'⟩ := hchildren c hc
      exact round_denial hv (e.uniform_judge fuel) rfl hkind'
    have hround := (relaxes_denying hk₀ hkind hno).round_verdict_iff (s := s) (y := y) hv hJ hk
      hdeny
    have hverdict (t : Site) :
        (e.judge (fuel + 2) t j).2 = (e.round (e.judge (fuel + 1)) t).outcome.verdict := by
      have huniform := e.uniform_round hJ t j
      rw [judge, huniform]
      rfl
    rw [hverdict, hverdict]
    apply hround
    intro hothers
    simp only [List.mem_cons, List.not_mem_nil, or_false] at hk₀
    rcases hk₀ with rfl | rfl
    · obtain rfl : kind = .object := List.mem_singleton.mp hkind
      exact denies_object hno hk hothers
    · obtain rfl : kind = .array := List.mem_singleton.mp hkind
      exact denies_array hno hk hothers
  · -- for values of another kind the keyword does not count at all
    have halike : Members.Alike kind node (node.denying k₀) :=
      Members.alike_of_ne hkind fun name hne => (get?_denying_of_ne node hne).symm
    rw [((judge_alike hv hk halike (fuel + 2)) j).2]

theorem judgeSite_denying (hv : e.vocabulary = .known) (hloops : e.loops ≠ .follow)
    (htrail : s.OnTrail e.documents)
    (hk₀ : k₀ ∈ [Keyword.additionalProperties, .additionalItems])
    (hno : node.get? k₀.name = some (.bool false)) (hk : s.kind = .ok kind)
    (hchildren : ∀ c ∈ s.value.children, ∃ kind, Kind.classify c.2 = .ok kind) (j : Journal)
    (y : Bool) : (e.judgeSite (s.with node) j).2 = .ok y ↔
      (e.judgeSite (s.with (node.denying k₀)) j).2 = .ok y := by
  have hfuel := judge_denying hv hk₀ hno hk hchildren
    (e.fuelFor (s.with node) + e.fuelFor (s.with (node.denying k₀))) j y
  rw [judge_eq_judgeSite hv hloops htrail (by omega),
    judge_eq_judgeSite hv hloops htrail (by omega)] at hfuel
  exact hfuel

end Setting

/-- The verdict of a result is that of judging. -/
theorem Validator.isValid_of_validate (v : Validator) (x : Value) (y : Bool) :
    (∃ r, (v.validate x).2 = .ok r ∧ r.isValid = y) ↔ (v.findings x).2 = .ok y := by
  rw [validate_eq_map]
  cases (v.findings x).2 with
  | error f => simp [Except.map]
  | ok b => simp [Except.map, resultOf_isValid]

/-- The test on a closed node and the choice of schemas for its children agree, so a schema that
nothing satisfies can stand for the prohibition. Of an object, the members that are reported are
those without a schema; an array is too long just where some element has no schema; and allowing
other members or elements under the schema that nothing satisfies instead never changes the
verdict on a value whose children are document values. -/
theorem Setting.closed_world (e : Setting) (hv : e.vocabulary = .known) (node : Members) :
    (node.get? "additionalProperties" = some (.bool false) →
      (∀ k ∈ Keyword.selected node .object, ∃ b, k.build node = .ok b) →
      ∃ declared ps, Keyword.additionalProperties.build node =
          .ok (Keyword.asTest (.closed declared ps)) ∧
        ∀ (s : Site) ms, s.value = .obj ms →
          (∀ name, name ∈ Test.unwanted node ms ↔ name ∈ Members.keys ms ∧
            ChildSchema.ofKind .object node (.name name) = .ok []) ∧
          (∀ r, (Test.closed declared ps).finding s = .ok r →
            r = if (Test.unwanted node ms).isEmpty then none else some (s.diagnostic
              ("additional properties are not allowed: " ++
                Test.commaList (Test.unwanted node ms))
              (some "additionalProperties")
              [("unwanted", Test.texts (Test.unwanted node ms))])) ∧
          ((∀ m ∈ ms, ∃ ts, ChildSchema.ofKind .object node (.name m.1) = .ok ts) →
            ∃ r, (Test.closed declared ps).finding s = .ok r)) ∧
    (∀ xs, node.get? "items" = some (.arr xs) →
      node.get? "additionalItems" = some (.bool false) →
      Keyword.additionalItems.build node = .ok (Keyword.asTest (.tupleLength xs.length)) ∧
        ∀ (s : Site) ys, s.value = .arr ys →
          ((∃ d, (Test.tupleLength xs.length).finding s = .ok (some d)) ↔
            ∃ i < ys.length, ChildSchema.ofKind .array node (.index i) = .ok []) ∧
          ∃ r, (Test.tupleLength xs.length).finding s = .ok r) ∧
    ∀ k₀ ∈ [Keyword.additionalProperties, .additionalItems],
      node.get? k₀.name = some (.bool false) →
      let denying := node.put k₀.name (.obj [("disallow", .str "any")])
      ∀ (s : Site) kind, s.kind = .ok kind →
        (∀ c ∈ s.value.children, ∃ kind, Kind.classify c.2 = .ok kind) →
        (∀ fuel j y, (e.judge (fuel + 2) (s.with node) j).2 = .ok y ↔
          (e.judge (fuel + 2) (s.with denying) j).2 = .ok y) ∧
        (e.loops ≠ .follow → s.OnTrail e.documents → ∀ j y,
          (e.judgeSite (s.with node) j).2 = .ok y ↔
            (e.judgeSite (s.with denying) j).2 = .ok y) ∧
        (e.loops ≠ .follow → ∀ location y,
          (∃ r, ((⟨.obj node, e, location⟩ : Validator).validate s.value).2 = .ok r ∧
            r.isValid = y) ↔
          ∃ r, ((⟨.obj denying, e, location⟩ : Validator).validate s.value).2 = .ok r ∧
            r.isValid = y) := by
  refine ⟨?_, ?_, ?_⟩
  · intro hno hbuilt
    have hsel : Keyword.additionalProperties ∈ Keyword.selected node .object :=
      Keyword.mem_selected.mpr ⟨⟨_, hno⟩, by decide⟩
    obtain ⟨b, hb⟩ := hbuilt _ hsel
    obtain ⟨declared, sources, ps, hd, hs, hp, rfl⟩ := Keyword.closed_of_build hno hb
    refine ⟨_, ps, hb, ?_⟩
    intro s ms hvalue
    exact ⟨fun name => Test.mem_unwanted,
      fun r hr => Test.closed_finding hno hd hs hp hvalue hr,
      fun hschemas => Test.exists_closed_finding hno hd hs hp hvalue hschemas⟩
  · intro xs hitems hno
    have hbuild : Keyword.additionalItems.build node =
        .ok (Keyword.asTest (.tupleLength xs.length)) :=
      Keyword.additionalItemsBuilder_ok.mpr ⟨_, hno, .inl ⟨_, rfl⟩, .inl ⟨xs, rfl, hitems, rfl⟩⟩
    refine ⟨hbuild, ?_⟩
    intro s ys hvalue
    refine ⟨Test.tupleLength_fails_iff hitems hno hvalue, ?_⟩
    cases hr : (Test.tupleLength xs.length).finding s with
    | error f => exact absurd hr (Test.tells_tupleLength hvalue).ne_error
    | ok r => exact ⟨r, rfl⟩
  · intro k₀ hk₀ hno denying s kind hk hchildren
    refine ⟨fun fuel j y => judge_denying hv hk₀ hno hk hchildren fuel j y,
      fun hloops htrail j y => judgeSite_denying hv hloops htrail hk₀ hno hk hchildren j y, ?_⟩
    intro hloops location y
    rw [Validator.isValid_of_validate, Validator.isValid_of_validate]
    have hsite : ((⟨.obj node, e, location⟩ : Validator).site s.value).OnTrail e.documents :=
      .of_trail_eq_nil rfl
    exact judgeSite_denying hv hloops hsite hk₀ hno hk hchildren _ y

/-- Of a person with a name and an age the age is unwanted where only the name is declared, and
denying other members comes to the same verdict. -/
theorem Setting.closed_world_person :
    let e : Setting := ⟨.known, {}, {}, .report⟩
    let node : Members :=
      [("properties", .obj [("name", .obj [])]), ("additionalProperties", .bool false)]
    let denying : Members := node.put "additionalProperties" (.obj [("disallow", .str "any")])
    let person : Members := [("name", .str "Ada"), ("age", .int 36)]
    "age" ∈ Test.unwanted node person ∧ "name" ∉ Test.unwanted node person ∧
      ∀ y, (∃ r, ((⟨.obj node, e, {}⟩ : Validator).validate (.obj person)).2 = .ok r ∧
          r.isValid = y) ↔
        ∃ r, ((⟨.obj denying, e, {}⟩ : Validator).validate (.obj person)).2 = .ok r ∧
          r.isValid = y := by
  intro e node denying person
  obtain ⟨hobject, _, hdenying⟩ := Setting.closed_world e rfl node
  have hno : node.get? "additionalProperties" = some (.bool false) := rfl
  have hbuilt : ∀ k ∈ Keyword.selected node .object, ∃ b, k.build node = .ok b := by
    have hselected : Keyword.selected node .object = [.additionalProperties, .properties] := rfl
    rw [hselected]
    simp only [List.forall_mem_cons, List.not_mem_nil, false_implies, implies_true, and_true]
    exact ⟨⟨_, rfl⟩, ⟨_, rfl⟩⟩
  let site : Site := ⟨.null, .obj person, .root, {}, [], false⟩
  obtain ⟨_, _, _, htest⟩ := hobject hno hbuilt
  have hunwanted := (htest site person rfl).1
  have hchildren : ∀ c ∈ site.value.children, ∃ kind, Kind.classify c.2 = .ok kind := by
    have hpairs : site.value.children = [(.name "name", .str "Ada"), (.name "age", .int 36)] := rfl
    rw [hpairs]
    simp only [List.forall_mem_cons, List.not_mem_nil, false_implies, implies_true, and_true]
    exact ⟨⟨.string, rfl⟩, ⟨.integer, rfl⟩⟩
  have hverdicts := hdenying .additionalProperties (by decide) hno site .object rfl hchildren
  refine ⟨(hunwanted "age").mpr ⟨by decide, rfl⟩, ?_, hverdicts.2.2 (by decide) {}⟩
  intro hname
  have hbare := ((hunwanted "name").mp hname).2
  cases hbare

end Conform
