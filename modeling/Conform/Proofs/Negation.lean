import Conform.Proofs.Agreement
import Conform.Proofs.Faults
import Conform.Proofs.Related

/-!
What negation makes of nodes that cannot be used. A trial that comes upon such a node says no, and
a type that is negated takes this as it takes any other no: it keeps nothing of what the trial
found, and goes on as if the schema were not listed. So a valid result never shows that some node
could not be used, and is come to exactly if the value satisfies the schema, where a node that
cannot be used is satisfied by nothing.
-/
namespace Conform

/-- A result that says no, or shows of some node that it could not be used. -/
def Result.Warns (r : Result) : Prop :=
  r.isValid = false ∨
    ∃ m, m.isConstruction ∧ m ∈ r.report.messages ∧ m ∈ r.faults.report.messages

/-- A result that says yes, and shows of no node that it could not be used. -/
structure Result.Silent (r : Result) : Prop where
  valid : r.isValid = true
  report : ∀ m ∈ r.report.messages, m.isConstruction = false
  faults : r.faults.report.messages = []
  ignored : r.faults.ignored = []

/-- An outcome that complains about some node. -/
def Outcome.Complains (o : Outcome) : Prop := ∃ m ∈ o.messages, m.isConstruction

theorem Outcome.Agrees.verdict_of_complains {o : Outcome} (h : o.Agrees) (hc : o.Complains)
    {b : Bool} (hb : o.verdict = .ok b) : b = false := by
  obtain ⟨m, hm, hmc⟩ := hc
  obtain ⟨ms, ns, hsplit⟩ := List.append_of_mem hm
  rw [h.verdict b hb, hsplit, isClean_append, isClean_cons_of_error (h.grave m hm hmc),
    Bool.and_false]

namespace FaultReport

/-- Findings that complain about no node are copied as they are. -/
theorem collect_of_not_complains {found : List Diagnostic} {collapse : Bool} (target : Report)
    (h : ∀ m ∈ found, m.isConstruction = false) :
    collect found target collapse = ({}, target.logAll found) := by
  unfold collect
  induction found generalizing target with
  | nil => rfl
  | cons d ds ih =>
    obtain ⟨hd, hds⟩ := List.forall_mem_cons.mp h
    have hstep : collectStep collapse (({}, target) : FaultReport × Report) d =
        ({}, target.log d) := by
      simp [collectStep, hd]
    rw [List.foldl_cons, hstep, ih _ hds]
    rfl

end FaultReport

namespace Logic

variable {J : Judge} {s : Site} {keyword : String} {names : List String}

/-- A trial that says no may as well not be made. -/
theorem found_append_failed (hJ : J.Uniform) {t : Site} (ht : (J t).outcome.verdict = .ok false)
    (pre post : List Site) : found J (pre ++ t :: post) = found J (pre ++ post) := by
  induction pre with
  | nil =>
    rw [List.nil_append, found_cons hJ, ht]
    rfl
  | cons u pre ih => simp only [List.cons_append, found_cons hJ, ih]

/-- A negated type shows nothing of its trials but whether one of them held. -/
theorem disallow_congr (hJ : J.Uniform) {parts parts' : List Part}
    (h : (matching J keyword names parts s []).2.map Prod.fst =
      (matching J keyword names parts' s []).2.map Prod.fst) :
    (judgeTypes J keyword names parts true s).outcome.verdict =
        (judgeTypes J keyword names parts' true s).outcome.verdict ∧
      (judgeTypes J keyword names parts true s).outcome.messages =
        (judgeTypes J keyword names parts' true s).outcome.messages := by
  rw [Step.outcome_eq (judgeTypes_onto hJ keyword names parts true s),
    Step.outcome_eq (judgeTypes_onto hJ keyword names parts' true s)]
  unfold typesOutcome
  generalize matching J keyword names parts s [] = trials at h
  generalize matching J keyword names parts' s [] = trials' at h
  rcases trials with ⟨notes, f | ⟨matched, reports⟩⟩
  · rcases trials' with ⟨notes', f' | ⟨matched', reports'⟩⟩
    · cases h
      exact ⟨rfl, rfl⟩
    · cases h
  · rcases trials' with ⟨notes', f' | ⟨matched', reports'⟩⟩
    · cases h
    · obtain rfl : matched = matched' := Except.ok.inj h
      cases s.kind with
      | error f => exact ⟨rfl, rfl⟩
      | ok found => cases matched <;> exact ⟨rfl, rfl⟩

/-- A negated type goes on as if a schema whose trial says no were not listed. -/
theorem disallow_append_failed (hJ : J.Uniform) {p : Part}
    (hp : (J (s.scratch p.schema (partLocation s keyword p))).outcome.verdict = .ok false)
    (pre post : List Part) :
    (judgeTypes J keyword names (pre ++ p :: post) true s).outcome.verdict =
        (judgeTypes J keyword names (pre ++ post) true s).outcome.verdict ∧
      (judgeTypes J keyword names (pre ++ p :: post) true s).outcome.messages =
        (judgeTypes J keyword names (pre ++ post) true s).outcome.messages := by
  apply disallow_congr hJ
  simp only [matching_found, List.map_append, List.map_cons, found_append_failed hJ hp]

end Logic

/-- Only at a node that can be used, judging comes upon a fault. -/
theorem Escapes.usable {d : Documents} {uri : String} {seen : List Location} {node : Members}
    {v : Value} {f : Fault} {kind : Kind} (h : Escapes d uri seen (.obj node) v f)
    (hk : Kind.classify v = .ok kind) : Usable node v := by
  cases h with
  | foreign _ hf => cases hk.symm.trans hf
  | unwritten hu | pattern hu | regex hu | name hu | unreadable hu | target hu | extending hu
  | dependency hu | trial hu | child hu => exact hu

theorem not_satisfies_of_not_usable {d : Documents} {uri : String} {seen : List Location}
    {node : Members} {v : Value} (h : ¬ Usable node v) : ¬ Satisfies d uri seen (.obj node) v := by
  intro hsat
  apply h
  intro k w hw happlies
  exact ((satisfies_obj.mp hsat).1 k w hw happlies).1

/-- Judging a value against a node that cannot be used comes to a complaint and a no. -/
theorem Setting.complains_of_not_usable {e : Setting} (hv : e.vocabulary = .known) (n : Nat)
    {s : Site} {node : Members} {kind : Kind} (hs : s.schema = .obj node) (hk : s.kind = .ok kind)
    (h : ¬ Usable node s.value) :
    (e.judge (n + 1) s).outcome.Complains ∧ (e.judge (n + 1) s).outcome.verdict = .ok false := by
  have hunbuilt : ∃ k ∈ Keyword.selected node kind, ∀ b, k.build node ≠ .ok b := by
    by_contra hnone
    push Not at hnone
    exact h (usable_of_built (Kind.classify_ok.mp hk) hnone)
  obtain ⟨k, hsel, hfail⟩ := hunbuilt
  obtain ⟨ns, d, hd, hround⟩ := round_unbuilt hv (e.uniform_judge n) hs hk hsel hfail
  have hjudge : (e.judge (n + 1) s).outcome = ⟨ns, [d], .ok false⟩ := hround
  rw [hjudge]
  refine ⟨⟨d, List.mem_singleton_self d, ?_⟩, rfl⟩
  simp [Diagnostic.isConstruction, hd.domain]

/-- The schema that disallows each of some nodes. -/
def disallowing (nodes : List Members) : Members :=
  [("disallow", .arr (nodes.map Value.obj))]

section
variable {d : Documents} {uri : String} {seen : List Location} {v : Value} {nodes : List Members}
  {kind : Kind}

theorem get?_disallowing {name : String} {w : Value} :
    (disallowing nodes).get? name = some w ↔
      name = "disallow" ∧ w = .arr (nodes.map Value.obj) := by
  simp only [disallowing, Members.get?, List.lookup_cons, List.lookup_nil]
  by_cases h : name = "disallow"
  · simp [h, eq_comm]
  · have hne : (name == "disallow") = false := by simpa using h
    simp [h, hne]

theorem not_governs_disallowing {token : Token} {t : Value} :
    ¬ Governs (disallowing nodes) token t := by
  intro h
  cases h with
  | everyItem h | item h | furtherItem h | property h | further _ h =>
    exact absurd (get?_disallowing.mp h).1 (by decide)
  | matched h =>
    obtain ⟨_, h, _⟩ := h
    exact absurd (get?_disallowing.mp h).1 (by decide)

theorem eq_disallow_of_name {k : Keyword} (h : k.name = "disallow") : k = .disallow := by
  cases k <;> first | rfl | exact absurd h (by decide)

theorem isTypes_of_nodes (hne : nodes ≠ []) : (Value.arr (nodes.map Value.obj)).IsTypes := by
  refine .inr ⟨_, rfl, by simpa using hne, ?_⟩
  intro t ht
  obtain ⟨node, _, rfl⟩ := List.mem_map.mp ht
  exact .inr ⟨node, rfl⟩

theorem satisfies_disallowing (hne : nodes ≠ []) (h : ∀ t ∈ nodes, ¬ Usable t v) :
    Satisfies d uri seen (.obj (disallowing nodes)) v := by
  refine satisfies_obj.mpr ⟨?_, ?_, ?_⟩
  · intro k w hw _
    obtain ⟨hk, rfl⟩ := get?_disallowing.mp hw
    obtain rfl := eq_disallow_of_name hk
    exact ⟨isTypes_of_nodes hne, trivial⟩
  · intro k w hw
    obtain ⟨hk, rfl⟩ := get?_disallowing.mp hw
    obtain rfl := eq_disallow_of_name hk
    intro hof
    rcases hof with ⟨n, hn, _⟩ | ⟨t, ht, hsat⟩
    · obtain ⟨t, ht, hname⟩ := List.mem_filterMap.mp hn
      obtain ⟨node, _, rfl⟩ := List.mem_map.mp ht
      cases hname
    · obtain ⟨node, hnode, rfl⟩ := List.mem_map.mp ht
      exact not_satisfies_of_not_usable (h node hnode) hsat
  · intro c _ t hg
    exact absurd hg not_governs_disallowing

theorem not_escapes_disallowing (hk : Kind.classify v = .ok kind)
    (h : ∀ t ∈ nodes, ¬ Usable t v) (f : Fault) :
    ¬ Escapes d uri seen (.obj (disallowing nodes)) v f := by
  intro hf
  cases hf with
  | foreign _ hf => cases hk.symm.trans hf
  | unwritten _ hw _ _ hlong =>
    obtain rfl := eq_disallow_of_name (get?_disallowing.mp hw).1
    exact hlong
  | pattern _ hw | regex _ hw | unreadable _ hw | target _ hw | extending _ hw | dependency _ hw =>
    exact absurd (get?_disallowing.mp hw).1 (by decide)
  | name _ _ _ hn =>
    obtain ⟨_, hn, _⟩ := hn
    exact absurd (get?_disallowing.mp hn).1 (by decide)
  | child _ _ hg => exact not_governs_disallowing hg
  | @trial _ _ _ _ _ _ w t pre post _ _ hw _ hl _ hf =>
    obtain ⟨_, rfl⟩ := get?_disallowing.mp hw
    have ht : t ∈ nodes.map Value.obj := by
      have hmem : t ∈ (Value.arr (nodes.map Value.obj)).schemas := by simp [hl]
      exact (List.mem_filter.mp hmem).1
    obtain ⟨node, hnode, rfl⟩ := List.mem_map.mp ht
    exact h node hnode (hf.usable hk)

end

namespace Validator

variable {schema : Value} {o : Options} {documents : Option Documents} {baseUri : String}
  {store : Members} {v : Validator} {x : Value} {r : Result}

theorem known_of_make (hmake : make schema .known o documents baseUri store = .ok v) :
    v.setting.vocabulary = .known := by
  obtain ⟨d, l, rfl⟩ := eq_of_make hmake
  rfl

/-- A valid result shows of no node that it could not be used. -/
theorem silent_of_isValid (hmake : make schema .known o documents baseUri store = .ok v)
    (h : (v.validate x).2 = .ok r) (hvalid : r.isValid = true) : r.Silent := by
  obtain ⟨b, hb, rfl⟩ := validate_ok h
  obtain rfl : b = true := hvalid
  have hv : v.setting.vocabulary = .known := known_of_make hmake
  have hagrees : (v.setting.judgeSite (v.site x)).outcome.Agrees := Setting.agrees_judge hv _ _
  have hnone : ∀ m ∈ (v.setting.judgeSite (v.site x)).outcome.messages,
      m.isConstruction = false := by
    intro m hm
    by_contra hc
    -- a complaint among the findings would have made the verdict a no
    have hno := hagrees.verdict_of_complains ⟨m, hm, by simpa using hc⟩ hb
    cases hno
  unfold resultOf
  rw [FaultReport.collect_of_not_complains _ hnone]
  refine ⟨rfl, ?_, rfl, rfl⟩
  intro m hm
  rw [Report.logAll_eq, List.nil_append] at hm
  exact hnone m (List.mem_filter.mp hm).1

/-- A result that shows a complaint says no anyway. -/
theorem warns_iff (hmake : make schema .known o documents baseUri store = .ok v)
    (h : (v.validate x).2 = .ok r) : r.Warns ↔ r.isValid = false := by
  refine ⟨?_, .inl⟩
  intro hwarns
  rcases hwarns with hno | ⟨m, hm, hmem, _⟩
  · exact hno
  · cases hvalid : r.isValid with
    | false => rfl
    | true =>
      have hnone := (silent_of_isValid hmake h hvalid).report m hmem
      rw [hm] at hnone
      cases hnone

/-- Schemas that a value cannot be judged against are disallowed in vain: the value is valid, and
nothing is said. -/
theorem silent_disallowing {nodes : List Members} {kind : Kind} (hne : nodes ≠ [])
    (hk : Kind.classify x = .ok kind) (hbroken : ∀ t ∈ nodes, ¬ Usable t x)
    (hmake : make (.obj (disallowing nodes)) .known o documents baseUri store = .ok v) :
    ∃ r, (v.validate x).2 = .ok r ∧ r.Silent := by
  cases hr : (v.validate x).2 with
  | error f =>
    obtain ⟨d, l, rfl⟩ := eq_of_make hmake
    have hescapes := Setting.escapes_of_judgeSite rfl rfl (.of_trail_eq_nil rfl)
      (validate_error.mp hr)
    exact absurd hescapes (not_escapes_disallowing hk hbroken f)
  | ok r =>
    obtain ⟨b, hb, rfl⟩ := validate_ok hr
    have hvalid := (verdict_means hmake hb).mpr (satisfies_disallowing hne hbroken)
    exact ⟨_, rfl, silent_of_isValid hmake hr hvalid⟩

/-- Negation hides that nodes cannot be used. A result says no, or shows the complaint, exactly if
the value does not satisfy the schema, where such nodes are satisfied by nothing; and whenever it
says yes, it shows no complaint at all. For a trial that complains says no, and a negated type
comes to what it comes to when the schema of that trial is not listed; so schemas that cannot be
used are disallowed without a word. -/
theorem disallow_silences (hmake : make schema .known o documents baseUri store = .ok v)
    (x : Value) :
    (∀ r, (v.validate x).2 = .ok r →
      (r.Warns ↔ ¬ Satisfies v.setting.documents v.location.uri [] schema x) ∧
        (r.isValid = true → r.Silent)) ∧
    (∀ (n : Nat) (s : Site) (names : List String) (p : Part) (b : Bool),
      let J := v.setting.judge n
      let trial := (J (s.scratch p.schema (Logic.partLocation s "disallow" p))).outcome
      let negated (parts : List Part) := (Logic.judgeTypes J "disallow" names parts true s).outcome
      trial.Complains → trial.verdict = .ok b →
      b = false ∧ ∀ pre post,
        (negated (pre ++ p :: post)).verdict = (negated (pre ++ post)).verdict ∧
          (negated (pre ++ p :: post)).messages = (negated (pre ++ post)).messages) ∧
    ∀ (nodes : List Members) (kind : Kind), schema = .obj (disallowing nodes) → nodes ≠ [] →
      Kind.classify x = .ok kind → (∀ t ∈ nodes, ¬ Usable t x) →
      (∀ t ∈ nodes, ∀ n l,
        (v.setting.judge (n + 1) ((v.site x).scratch (.obj t) l)).outcome.Complains) ∧
      ∃ r, (v.validate x).2 = .ok r ∧ r.Silent := by
  have hv : v.setting.vocabulary = .known := known_of_make hmake
  refine ⟨?_, ?_, ?_⟩
  · intro r h
    refine ⟨?_, silent_of_isValid hmake h⟩
    obtain ⟨b, hb, rfl⟩ := validate_ok h
    rw [warns_iff hmake h, ← verdict_means hmake hb, Bool.not_eq_true, resultOf_isValid]
  · intro n s names p b J trial negated hc hb
    obtain rfl : b = false := (Setting.agrees_judge hv n _).verdict_of_complains hc hb
    exact ⟨rfl, Logic.disallow_append_failed (v.setting.uniform_judge n) hb⟩
  · intro nodes kind hschema hne hk hbroken
    subst hschema
    refine ⟨?_, silent_disallowing hne hk hbroken hmake⟩
    intro t ht n l
    exact (Setting.complains_of_not_usable hv n (s := (v.site x).scratch (.obj t) l) rfl hk
      (hbroken t ht)).1

/-- A bound that is no number, disallowed next to a type that the value is not of: the result says
no on account of the type. -/
theorem disallow_silences_typed :
    let schema : Value :=
      .obj [("type", .str "string"), ("disallow", .arr [.obj [("minimum", .str "x")]])]
    ∃ v r, make schema .known {} none "" [] = .ok v ∧ (v.validate (.int 5)).2 = .ok r ∧
      r.Warns ∧ r.faults.report.messages = [] ∧
      ¬ Satisfies v.setting.documents v.location.uri [] schema (.int 5) := by
  intro schema
  refine ⟨_, _, rfl, rfl, .inl rfl, rfl, ?_⟩
  have hmake : make schema .known {} none "" [] = .ok _ := rfl
  exact ((disallow_silences hmake (.int 5)).1 _ rfl).1.mp (.inl rfl)

/-- A bound that is no number, disallowed: the trial complains, the result says yes, and neither
the report nor the faults say why. -/
theorem disallow_silences_bound :
    let schema : Value := .obj [("disallow", .arr [.obj [("minimum", .str "x")]])]
    let p : Part := ⟨some 0, .obj [("minimum", .str "x")]⟩
    ∃ v r, make schema .known {} none "" [] = .ok v ∧ (v.validate (.int 5)).2 = .ok r ∧
      let s := v.site (.int 5)
      let trial := s.scratch p.schema (Logic.partLocation s "disallow" p)
      v.setting.Reaches s trial ∧ (v.setting.judgeSite trial).outcome.Complains ∧
      r.isValid = true ∧ r.report.messages = [] ∧ r.faults.report.messages = [] := by
  intro schema p
  refine ⟨_, _, rfl, rfl, ?_, ⟨_, List.mem_singleton_self _, rfl⟩, rfl, rfl, rfl⟩
  exact .head (List.mem_singleton_self _) .refl

end Validator

end Conform
