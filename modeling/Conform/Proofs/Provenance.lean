import Conform.Proofs.Composition
import Conform.Proofs.Termination
import Conform.Proofs.Tests

/-!
Where messages come from. Every message of a run is one that a part of the checker has of its own,
or was found at a site that came up on the way. With the known keywords, a message that a site has
of its own is about it: it stands at the place of its value and of its node, and names a keyword of
the node that applies to the value, or says that there is no node.
-/
namespace Conform

namespace Outcome

variable {m : Diagnostic}

theorem mem_messages_andThen {a b : Outcome} (h : m ∈ (a.andThen b).messages) :
    m ∈ a.messages ∨ m ∈ b.messages := by
  unfold andThen at h
  split at h
  · exact .inl h
  · exact List.mem_append.mp h

theorem mem_messages_all {os : List Outcome} (h : m ∈ (all os).messages) :
    ∃ o ∈ os, m ∈ o.messages := by
  induction os with
  | nil => simp [all] at h
  | cons o os ih =>
    rcases mem_messages_andThen h with h | h
    · exact ⟨o, List.mem_cons_self, h⟩
    · obtain ⟨p, hp, h⟩ := ih h
      exact ⟨p, List.mem_cons_of_mem _ hp, h⟩

theorem mem_messages_apart {o : Outcome} (h : m ∈ o.apart.messages) : m ∈ o.messages := by
  unfold apart at h
  split at h
  · simp at h
  · exact h

end Outcome

namespace Step

variable {m : Diagnostic}

theorem mem_messages_all {ss : List Step} (hs : ∀ s ∈ ss, s.Uniform)
    (h : m ∈ (all ss).outcome.messages) : ∃ s ∈ ss, m ∈ s.outcome.messages := by
  rw [outcome_all hs] at h
  obtain ⟨o, ho, h⟩ := Outcome.mem_messages_all h
  obtain ⟨s, hs, rfl⟩ := List.mem_map.mp ho
  exact ⟨s, hs, h⟩

end Step

namespace Test

theorem standsAt_finding {t : Test} {s : Site} {d : Diagnostic}
    (h : t.finding s = .ok (some d)) : d.StandsAt s (some t.keyword) := by
  obtain ⟨message, details, rfl⟩ := eq_diagnostic_of_finding h
  exact s.standsAt_diagnostic _ _ _ _ _

end Test

namespace Logic

/-- The keyword that a logic speaks for, unless it is told what to say. -/
def keyword? : Logic → Option String
  | .test t => some t.keyword
  | .unknownFormat _ => some "format"
  | .types keyword _ _ _ => some keyword
  | .extending _ => some "extends"
  | .dependencies _ _ => some "dependencies"
  | .reference _ => some "$ref"
  | .told _ => none

/-- What a logic may say at a site of its own. -/
def Says (l : Logic) (s : Site) (m : Diagnostic) : Prop :=
  match l with
  | .told answer => m ∈ (answer s).1
  | l => m.StandsAt s l.keyword?

variable {e : Setting} {J : Judge} {s : Site} {m : Diagnostic}

/-- Trials have no messages but those of the sites tried. -/
theorem mem_messages_tries (hJ : J.Uniform) {ss : List Site} {b : Bool} {reports : List Report}
    (h : (tries J ss []).2 = .ok (b, reports)) (hm : m ∈ reports.flatMap (·.messages)) :
    ∃ t ∈ ss, m ∈ (J t).outcome.messages := by
  induction ss generalizing b reports with
  | nil =>
    obtain ⟨_, rfl⟩ := Prod.mk.inj (Except.ok.inj h)
    simp at hm
  | cons t ss ih =>
    rw [tries_cons hJ] at h
    obtain ⟨x, _, h⟩ := Answer.bind_ok.mp h
    cases x with
    | true =>
      obtain ⟨_, rfl⟩ := Prod.mk.inj (Except.ok.inj h)
      rw [List.flatMap_singleton] at hm
      exact ⟨t, List.mem_cons_self, hm⟩
    | false =>
      obtain ⟨⟨found, later⟩, hrest, hp⟩ := Answer.map_ok.mp h
      obtain ⟨_, rfl⟩ := Prod.mk.inj hp
      rw [List.flatMap_cons] at hm
      rcases List.mem_append.mp hm with hm | hm
      · exact ⟨t, List.mem_cons_self, hm⟩
      · obtain ⟨u, hu, hm⟩ := ih hrest hm
        exact ⟨u, List.mem_cons_of_mem _ hu, hm⟩

theorem mem_messages_types (hJ : J.Uniform) {keyword : String} {names : List String}
    {parts : List Part} {negated : Bool}
    (hm : m ∈ (judgeTypes J keyword names parts negated s).outcome.messages) :
    m.StandsAt s (some keyword) ∨
      ∃ t ∈ parts.map fun p => s.scratch p.schema (partLocation s keyword p),
        m ∈ (J t).outcome.messages := by
  rw [Step.outcome_eq (judgeTypes_onto hJ keyword names parts negated s)] at hm
  unfold typesOutcome at hm
  rcases hmatch : matching J keyword names parts s [] with ⟨notes, f | ⟨matched, reports⟩⟩
  · simp [hmatch] at hm
  · simp only [hmatch] at hm
    cases hk : s.kind with
    | error f => simp [hk] at hm
    | ok found =>
      simp only [hk] at hm
      -- a type that is not there, or one too many
      cases negated <;> cases matched <;>
        simp only [Bool.false_eq_true, ↓reduceIte, List.not_mem_nil, List.mem_cons, or_false] at hm
      · rcases hm with rfl | hm
        · exact .inl (s.standsAt_diagnostic _ _ _ _ _)
        · unfold matching at hmatch
          split at hmatch
          · cases hmatch
          · cases hmatch
          · exact .inr (mem_messages_tries hJ (congrArg Prod.snd hmatch) hm)
      · rw [hm]
        exact .inl (s.standsAt_diagnostic _ _ _ _ _)

theorem mem_messages_dependencies (hJ : J.Uniform) {required : List (String × List String)}
    {schemas : Members}
    (hm : m ∈ (judgeDependencies J required schemas s).outcome.messages) :
    m.StandsAt s (some "dependencies") ∨
      ∃ t ∈ (Logic.dependencies required schemas).calls e s, m ∈ (J t).outcome.messages := by
  unfold judgeDependencies at hm
  split at hm
  · rename_i members hv
    obtain ⟨step, hstep, hm⟩ :=
      Step.mem_messages_all (uniform_dependencySteps hJ required schemas s members) hm
    rcases List.mem_append.mp hstep with hstep | hstep
    · obtain ⟨d, _, rfl⟩ := List.mem_map.mp hstep
      unfold judgeRequired at hm
      dsimp only at hm
      split at hm
      · split at hm
        · simp at hm
        · rw [Step.outcome_fail, List.mem_singleton] at hm
          rw [hm]
          exact .inl (s.standsAt_diagnostic _ _ _ _ _)
      · simp at hm
    · obtain ⟨d, hd, rfl⟩ := List.mem_map.mp hstep
      unfold judgeDependent at hm
      split at hm
      · rename_i hpresent
        refine .inr ⟨_, ?_, hm⟩
        simp only [calls, hv]
        exact List.mem_map.mpr ⟨d, List.mem_filter.mpr ⟨hd, hpresent⟩, rfl⟩
      · simp at hm
  · simp at hm

theorem mem_messages_reference {ref : String}
    (hm : m ∈ (judgeReference e J ref s).outcome.messages) :
    m.StandsAt s (some "$ref") ∨
      ∃ t ∈ (Logic.reference ref).calls e s, m ∈ (J t).outcome.messages := by
  unfold judgeReference at hm
  split at hm
  · split at hm
    · rw [Step.outcome_fail, List.mem_singleton] at hm
      rw [hm]
      exact .inl (s.standsAt_diagnostic _ _ _ _ _)
    · simp at hm
  · rename_i location target hr
    split at hm
    · split at hm
      · simp at hm
      · rw [Step.outcome_fail, List.mem_singleton] at hm
        rw [hm]
        exact .inl (s.standsAt_diagnostic _ _ _ _ _)
    · rename_i hloop
      refine .inr ⟨_, ?_, hm⟩
      simp only [calls, hr, if_neg hloop, List.mem_singleton]

theorem messages_judgeTold (keyword : String) (answer : List Diagnostic × Except Fault Value) :
    (judgeTold keyword answer).outcome.messages = answer.1 := by
  obtain ⟨ms, f | v⟩ := answer
  · exact congrArg Outcome.messages (Step.outcome_eq (o := ⟨[], ms, .error f⟩) fun _ => rfl)
  · cases v with
    | bool b => exact congrArg Outcome.messages (Step.outcome_eq (o := ⟨[], ms, .ok b⟩) fun _ => rfl)
    | _ =>
      exact congrArg Outcome.messages
        (Step.outcome_eq (o := ⟨[], ms, .error (.notVerdict keyword _)⟩) fun _ => rfl)

/-- Every message of a logic is its own or was found at a site that it has judged. -/
theorem mem_messages_run (hJ : J.Uniform) {keyword : String} {l : Logic}
    (hm : m ∈ (l.run e J keyword s).outcome.messages) :
    l.Says s m ∨ ∃ t ∈ l.calls e s, m ∈ (J t).outcome.messages := by
  cases l with
  | test t =>
    simp only [run, judgeTest] at hm
    split at hm
    · simp at hm
    · simp at hm
    · rename_i d hd
      rw [Step.outcome_fail, List.mem_singleton] at hm
      rw [hm]
      exact .inl (Test.standsAt_finding hd)
  | unknownFormat name =>
    rw [Step.outcome_eq (unknownFormat_onto e J keyword name s), List.mem_singleton] at hm
    rw [hm]
    exact .inl (s.standsAt_diagnostic _ _ _ _ _)
  | types keyword names parts negated => exact mem_messages_types hJ hm
  | extending parts =>
    obtain ⟨step, hstep, hm⟩ := Step.mem_messages_all (hJ.map parts _) hm
    obtain ⟨p, hp, rfl⟩ := List.mem_map.mp hstep
    exact .inr ⟨_, List.mem_map.mpr ⟨p, hp, rfl⟩, hm⟩
  | dependencies required schemas => exact mem_messages_dependencies hJ hm
  | reference ref => exact mem_messages_reference hm
  | told answer =>
    left
    rw [run, messages_judgeTold] at hm
    exact hm

end Logic

namespace Checker

/-- What the parts of a checker may say of their own. -/
inductive Says : Checker → Diagnostic → Prop
  | never (m : Diagnostic) : Says (.never (some m)) m
  | single {keyword : String} {l : Logic} {s : Site} {m : Diagnostic} (h : l.Says s m) :
      Says (.single keyword l s) m
  | all {cs : List Checker} {c : Checker} {m : Diagnostic} (hc : c ∈ cs) (h : Says c m) :
      Says (.all cs) m
  | container {kind : Kind} {c : Checker} {s : Site} {m : Diagnostic} (h : Says c m) :
      Says (.container kind c s) m

variable {e : Setting} {J : Judge} {s : Site} {m : Diagnostic}

theorem mem_messages_runChildren (hJ : J.Uniform) {kind : Kind}
    (hm : m ∈ (runChildren e J kind s).outcome.messages) :
    ∃ t ∈ childCalls kind s, m ∈ (J t).outcome.messages := by
  cases hjobs : Job.ofSite kind s with
  | error f =>
    have habort : runChildren e J kind s = Step.abort f := by
      unfold runChildren
      rw [hjobs]
    rw [habort, Step.outcome_abort] at hm
    simp at hm
  | ok jobs =>
    have hcalls : childCalls kind s = jobs.map (·.site s) := by
      simp only [childCalls, hjobs]
    rw [hcalls]
    obtain ⟨ns, h | h⟩ := outcome_runChildren e hJ hjobs
    · rw [h] at hm
      obtain ⟨o, ho, hm⟩ := Outcome.mem_messages_all hm
      obtain ⟨j, hj, rfl⟩ := List.mem_map.mp ho
      exact ⟨_, List.mem_map_of_mem hj, hm⟩
    · rw [h] at hm
      obtain ⟨o, ho, hm⟩ := Outcome.mem_messages_all hm
      obtain ⟨j, hj, rfl⟩ := List.mem_map.mp ho
      exact ⟨_, List.mem_map_of_mem hj, Outcome.mem_messages_apart hm⟩

mutual

/-- Every message of a checker is of one of its parts or was found at a site that came up. -/
theorem mem_messages_run (hJ : J.Uniform) : ∀ c : Checker, m ∈ (c.run e J).outcome.messages →
    c.Says m ∨ ∃ t ∈ c.calls e, m ∈ (J t).outcome.messages
  | .always, hm => by simp [run] at hm
  | .never none, hm => by simp [run] at hm
  | .never (some d), hm => by
    rw [run, Step.outcome_fail, List.mem_singleton] at hm
    rw [hm]
    exact .inl (.never d)
  | .single keyword l s, hm => (Logic.mem_messages_run hJ hm).imp .single id
  | .all cs, hm => by
    rcases mem_messages_runAll hJ cs hm with ⟨c, hc, h⟩ | h
    · exact .inl (.all hc h)
    · exact .inr h
  | .container kind c s, hm => by
    rw [run, Step.outcome_both (uniform_run e hJ c) (uniform_runChildren e hJ kind s)] at hm
    rcases Outcome.mem_messages_andThen hm with hm | hm
    · rcases mem_messages_run hJ c hm with h | ⟨t, ht, hm⟩
      · exact .inl (.container h)
      · exact .inr ⟨t, List.mem_append_left _ ht, hm⟩
    · obtain ⟨t, ht, hm⟩ := mem_messages_runChildren hJ hm
      exact .inr ⟨t, List.mem_append_right _ ht, hm⟩
  | .stray t, hm => by simp [run] at hm

theorem mem_messages_runAll (hJ : J.Uniform) : ∀ cs : List Checker,
    m ∈ (runAll e J cs).outcome.messages →
    (∃ c ∈ cs, c.Says m) ∨ ∃ t ∈ callsAll e cs, m ∈ (J t).outcome.messages
  | [], hm => by simp [runAll] at hm
  | c :: cs, hm => by
    rw [runAll, Step.outcome_both (uniform_run e hJ c) (uniform_runAll e hJ cs)] at hm
    rcases Outcome.mem_messages_andThen hm with hm | hm
    · rcases mem_messages_run hJ c hm with h | ⟨t, ht, hm⟩
      · exact .inl ⟨c, List.mem_cons_self, h⟩
      · exact .inr ⟨t, List.mem_append_left _ ht, hm⟩
    · rcases mem_messages_runAll hJ cs hm with ⟨d, hd, h⟩ | ⟨t, ht, hm⟩
      · exact .inl ⟨d, List.mem_cons_of_mem _ hd, h⟩
      · exact .inr ⟨t, List.mem_append_right _ ht, hm⟩

end

theorem says_allOf {cs : List Checker} (h : (allOf cs).Says m) : ∃ c ∈ cs, c.Says m := by
  match cs, h with
  | [c], h => exact ⟨c, List.mem_singleton.mpr rfl, h⟩
  | c :: d :: cs, .all hc h => exact ⟨_, hc, h⟩

theorem says_wrap {kind : Kind} {c : Checker} (h : (wrap s kind c).Says m) : c.Says m := by
  have hcontainer {kind : Kind} (h : (container kind c s).Says m) : c.Says m := by
    cases h with
    | container h => exact h
  cases kind with
  | array => exact hcontainer h
  | object => exact hcontainer h
  | _ => exact h

end Checker

namespace Setting

/-- Every message of a round was said by the checker of the site or found at one that came up. -/
theorem mem_messages_round (e : Setting) {J : Judge} (hJ : J.Uniform) {s : Site} {m : Diagnostic}
    (hm : m ∈ (e.round J s).outcome.messages) :
    (∃ notes c, Checker.forSite e.vocabulary s = (notes, .ok c) ∧ c.Says m) ∨
      ∃ t ∈ e.calls s, m ∈ (J t).outcome.messages := by
  rcases hc : Checker.forSite e.vocabulary s with ⟨notes, f | c⟩
  · have hround : (e.round J s).outcome = ⟨notes.reverse, [], .error f⟩ := by
      apply Step.outcome_eq
      intro j
      simp only [round, hc]
      rfl
    rw [hround] at hm
    simp at hm
  · have hcalls : e.calls s = c.calls e := by
      simp only [calls, hc]
    rw [outcome_round hJ hc] at hm
    rw [hcalls]
    rcases Checker.mem_messages_run hJ c hm with h | h
    · exact .inl ⟨notes, c, rfl, h⟩
    · exact .inr h

/-- Every message of judging was said by the checker of a site that was reached. -/
theorem exists_reaches_of_mem_messages (e : Setting) {fuel : Nat} {s : Site} {m : Diagnostic}
    (hm : m ∈ (e.judge fuel s).outcome.messages) :
    ∃ t, e.Reaches s t ∧ ∃ notes c, Checker.forSite e.vocabulary t = (notes, .ok c) ∧ c.Says m := by
  induction fuel generalizing s with
  | zero => simp [judge] at hm
  | succ fuel ih =>
    rcases e.mem_messages_round (e.uniform_judge fuel) hm with h | ⟨t, ht, hm⟩
    · exact ⟨s, .refl, h⟩
    · obtain ⟨u, hu, h⟩ := ih hm
      exact ⟨u, .head ht hu, h⟩

end Setting

namespace Keyword

/-- The logic that a keyword is built to speaks for that keyword. -/
theorem keyword?_of_build {k : Keyword} {node : Members} {l : Logic}
    (h : k.build node = .ok (.logic l)) : l.keyword? = some k.name := by
  cases k with
  | additionalItems =>
    obtain ⟨_, _, _, ⟨_, _, _, h⟩ | ⟨_, h⟩⟩ := additionalItemsBuilder_ok.mp h
    · obtain rfl := Built.logic.inj h
      rfl
    · cases h
  | additionalProperties =>
    obtain ⟨_, _, ⟨_, h⟩ | ⟨_, _, _, _, _, _, _, h⟩⟩ := additionalPropertiesBuilder_ok.mp h
    · cases h
    · obtain rfl := Built.logic.inj h
      rfl
  | dependencies =>
    obtain ⟨_, _, _, _, _, h⟩ := dependenciesBuilder_ok.mp h
    obtain rfl := Built.logic.inj h
    rfl
  | disallow | type =>
    obtain ⟨_, _, _, _, _, h⟩ := typesBuilder_ok h
    obtain rfl := Built.logic.inj h
    rfl
  | divisibleBy =>
    obtain ⟨_, _, _, _, _, h⟩ := divisibleByBuilder_ok.mp h
    obtain rfl := Built.logic.inj h
    rfl
  | enum =>
    obtain ⟨_, _, _, h⟩ := enumBuilder_ok.mp h
    obtain rfl := Built.logic.inj h
    rfl
  | extending =>
    obtain ⟨_, _, _, _, h⟩ := extendingBuilder_ok.mp h
    obtain rfl := Built.logic.inj h
    rfl
  | format =>
    obtain ⟨_, _, ⟨_, _, h⟩ | ⟨_, h⟩⟩ := formatBuilder_ok.mp h
    · obtain rfl := Built.logic.inj h
      rfl
    · obtain rfl := Built.logic.inj h
      rfl
  | items =>
    obtain ⟨_, _, _, h⟩ := itemsBuilder_ok.mp h
    cases h
  | maximum | minimum =>
    obtain ⟨_, _, _, _, _, _, h⟩ := boundBuilder_ok.mp h
    obtain rfl := Built.logic.inj h
    rfl
  | maxItems | minItems =>
    obtain ⟨_, _, _, _, h⟩ := itemCountBuilder_ok.mp h
    obtain rfl := Built.logic.inj h
    rfl
  | maxLength | minLength =>
    obtain ⟨_, _, _, _, h⟩ := textLengthBuilder_ok.mp h
    obtain rfl := Built.logic.inj h
    rfl
  | pattern =>
    obtain ⟨_, _, _, _, h⟩ := patternBuilder_ok.mp h
    obtain rfl := Built.logic.inj h
    rfl
  | patternProperties =>
    obtain ⟨_, _, _, _, h⟩ := patternPropertiesBuilder_ok.mp h
    cases h
  | properties =>
    obtain ⟨_, names, _, _, h⟩ := propertiesBuilder_ok.mp h
    split at h
    · cases h
    · obtain rfl := Built.logic.inj h
      rfl
  | uniqueItems =>
    obtain ⟨wanted, _, h⟩ := uniqueItemsBuilder_ok.mp h
    split at h
    · obtain rfl := Built.logic.inj h
      rfl
    · cases h
  | reference =>
    obtain ⟨_, _, h⟩ := referenceBuilder_ok.mp h
    obtain rfl := Built.logic.inj h
    rfl

theorem of_mem_applicable {node : Members} {kind : Kind} {x : Entry}
    (hx : x ∈ Vocabulary.known.applicable (Members.keys node) kind) :
    ∃ k i, k ∈ selected node kind ∧ x = entry (k, i) := by
  obtain ⟨xs, hxs, happ⟩ := applicable_known node kind
  rw [happ] at hx
  obtain ⟨⟨k, i⟩, hmem, rfl⟩ := List.mem_map.mp hx
  refine ⟨k, i, ?_, rfl⟩
  rw [← hxs]
  exact List.mem_map.mpr ⟨(k, i), hmem, rfl⟩

/-- The checker that an entry makes of a keyword says what stands at the site for the keyword. -/
theorem standsAt_of_says {k : Keyword} {i : Nat} {node : Members} {s : Site} {c : Checker}
    {m : Diagnostic} (hs : s.schema = .obj node) (hc : (entry (k, i)).checker s = .ok c)
    (hm : c.Says m) : m.StandsAt s (some k.name) := by
  obtain ⟨b, hb, hc⟩ := Answer.bind_ok.mp hc
  have hbuild : k.build node = .ok b := (builder_eq hs).symm.trans hb
  obtain rfl := Except.ok.inj ((ofBuilt_of_build hbuild s).symm.trans hc)
  unfold checker at hm
  split at hm
  · rename_i l hl
    cases hm with
    | single h =>
      have hkeyword := keyword?_of_build hl
      rw [← hkeyword]
      cases l with
      | told answer => cases hkeyword
      | _ => exact h
  · cases hm

end Keyword

/-- A message about a site: one for a keyword of its node that applies to its value, or one that
says that there is no node. -/
inductive Diagnostic.About (m : Diagnostic) (s : Site) : Prop
  | keyword {node : Members} {kind : Kind} {k : Keyword} (hs : s.schema = .obj node)
      (hk : s.kind = .ok kind) (hsel : k ∈ Keyword.selected node kind)
      (hm : m.StandsAt s (some k.name))
  | shape (hshape : ¬ s.schema.IsSchema) (hd : m.Complains) (hm : m.StandsAt s none)

namespace Checker

variable {s : Site} {m : Diagnostic} {c : Checker} {notes : List Note}

/-- Each of the checkers that entries make is made by one of them. -/
theorem exists_entry_of_mem {es : List Entry} {cs : List Checker}
    (h : List.Forall₂ (fun x c => x.checker s = .ok c) es cs) (hc : c ∈ cs) :
    ∃ x ∈ es, x.checker s = .ok c := by
  induction h with
  | nil => simp at hc
  | @cons x d es cs hx _ ih =>
    rcases List.mem_cons.mp hc with rfl | hc
    · exact ⟨x, List.mem_cons_self, hx⟩
    · obtain ⟨y, hy, hyc⟩ := ih hc
      exact ⟨y, List.mem_cons_of_mem _ hy, hyc⟩

/-- What the known keywords make of a node that is not empty speaks about the site, whether all
of them can be built or not. -/
theorem about_of_says_node {node : Members} {kind : Kind} (hs : s.schema = .obj node)
    (hne : node ≠ []) (hk : s.kind = .ok kind) (h : forSite .known s = (notes, .ok c))
    (hm : c.Says m) : m.About s := by
  by_cases hall : ∀ x ∈ Vocabulary.known.applicable (Members.keys node) kind,
      ∃ c, x.checker s = .ok c
  · obtain ⟨cs, hcs⟩ := exists_checkers hall
    obtain ⟨_, hsite⟩ := forSite_of_checkers hs hne hk hcs
    rw [hsite] at h
    obtain rfl := Except.ok.inj (Prod.mk.inj h).2
    obtain ⟨c, hc, hm⟩ := says_allOf (says_wrap hm)
    obtain ⟨x, hx, hxc⟩ := exists_entry_of_mem hcs hc
    obtain ⟨k, i, hsel, rfl⟩ := Keyword.of_mem_applicable hx
    exact .keyword hs hk hsel (Keyword.standsAt_of_says hs hxc hm)
  · have hfail : ∃ x ∈ Vocabulary.known.applicable (Members.keys node) kind,
        ∃ f, x.checker s = .error f := by
      push Not at hall
      obtain ⟨x, hx, hnone⟩ := hall
      cases hxc : x.checker s with
      | error f => exact ⟨x, hx, f, hxc⟩
      | ok c => exact absurd hxc (hnone c)
    obtain ⟨pre, bad, post, f, hK, hpre, hbad⟩ := exists_first hfail
    obtain ⟨d, _, hd, hsite⟩ := forSite_of_first hs hne hk hK hpre hbad
    rw [hsite] at h
    obtain rfl := Except.ok.inj (Prod.mk.inj h).2
    cases hm
    have hmem : bad ∈ Vocabulary.known.applicable (Members.keys node) kind := by
      rw [hK]
      exact List.mem_append_right _ List.mem_cons_self
    obtain ⟨k, i, hsel, rfl⟩ := Keyword.of_mem_applicable hmem
    exact .keyword hs hk hsel hd.toStandsAt

/-- The checker that the known keywords make for a site speaks about the site. -/
theorem about_of_says (h : forSite .known s = (notes, .ok c)) (hm : c.Says m) : m.About s := by
  by_cases hshape : s.schema.IsSchema
  · obtain ⟨node, hs⟩ := hshape
    cases node with
    | nil =>
      simp only [forSite, hs] at h
      obtain rfl := Except.ok.inj (Prod.mk.inj h).2
      cases hm
    | cons n node =>
      cases hk : s.kind with
      | error f =>
        simp only [forSite, hs, hk] at h
        cases (Prod.mk.inj h).2
      | ok kind => exact about_of_says_node hs (List.cons_ne_nil _ _) hk h hm
  · obtain ⟨d, n, hd, hrefuses⟩ := unusable_refuses s none (.schemaShape none s.schema.typeName)
    have hsite : forSite .known s = ([n], .ok (.never (some d))) := by
      unfold forSite
      split
      · rename_i hs
        exact absurd ⟨_, hs⟩ hshape
      · rename_i hs
        exact absurd ⟨_, hs⟩ hshape
      · simp only [hd]
    rw [hsite] at h
    obtain rfl := Except.ok.inj (Prod.mk.inj h).2
    cases hm
    exact .shape hshape hrefuses.toComplains hrefuses.toStandsAt

end Checker

/-- With the known keywords, every message of judging is about a site that was reached. -/
theorem Setting.exists_about_of_mem_messages {e : Setting} (hv : e.vocabulary = .known)
    {fuel : Nat} {s : Site} {m : Diagnostic} (hm : m ∈ (e.judge fuel s).outcome.messages) :
    ∃ t, e.Reaches s t ∧ m.About t := by
  obtain ⟨t, ht, notes, c, hc, hsays⟩ := e.exists_reaches_of_mem_messages hm
  rw [hv] at hc
  exact ⟨t, ht, Checker.about_of_says hc hsays⟩

end Conform
