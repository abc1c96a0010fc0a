import Conform.Proofs.Escapes
import Conform.Proofs.Termination

/-!
Validation fails exactly where a fault escapes. If the judge of the sites below fails wherever a
fault escapes, so does a round; and a round fails with nothing else. As the fuel of a site suffices
whatever lies below it, both hold of judging.
-/
namespace Conform

namespace Checker

variable {e : Setting} {J : Judge} {s : Site} {node : Members} {kind : Kind} {f : Fault}

/-- The children fail if some child fails at a node that governs it. -/
theorem descent_fails (hJ : J.Uniform) (hs : s.schema = .obj node) (hk : s.kind = .ok kind)
    (hu : Usable node s.value) {c : Token × Value} {t : Value} (hc : c ∈ s.value.children)
    (hg : Governs node c.1 t)
    (h : ∀ steps, ∃ g, (J (s.child t c.2 c.1 steps)).outcome.verdict = .error g) :
    ∃ g, (descent e J kind s).verdict = .error g := by
  have hof := Kind.classify_ok.mp hk
  have hkind : kind = .array ∨ kind = .object := by
    by_contra hno
    rw [children_eq_nil hof hno] at hc
    simp at hc
  unfold descent
  rw [if_pos hkind]
  -- without jobs it has failed already
  cases hjobs : Job.ofSite kind s with
  | error g =>
    refine ⟨g, ?_⟩
    unfold runChildren
    rw [hjobs]
    simp
  | ok jobs =>
    have hitems : kind = .array → ∀ w, node.get? "items" = some w → w.IsSchemaList := by
      intro h w hw
      obtain rfl := h
      exact hu .items w hw ⟨.array, by decide, hof⟩
    obtain ⟨j, hj, hjc, rfl⟩ := (Job.mem_ofSite hs hk hkind hitems hjobs).mpr ⟨hc, hg⟩
    rw [verdict_runChildren hJ hjobs]
    obtain ⟨g, hfail⟩ := h j.schema.steps
    have hsite : s.child j.schema.schema c.2 c.1 j.schema.steps = j.site s := by
      rw [← hjc]
      rfl
    rw [hsite] at hfail
    exact Outcome.verdict_all_error (List.mem_map.mpr ⟨j, hj, rfl⟩) hfail

theorem descent_fails_of_search (hs : s.schema = .obj node) (hk : s.kind = .ok kind)
    {ms : Members} {m : String × Value} {source : String} {t : Value} {p : Pattern}
    (hv : s.value = .obj ms) (hm : m ∈ ms) (hn : Names node "patternProperties" source t)
    (hp : Pattern.compile source = .ok p) (hsearch : p.search m.1 = .error f) :
    ∃ g, (descent e J kind s).verdict = .error g := by
  have hobject : kind = .object := by
    have hof := Kind.classify_ok.mp hk
    rw [hv] at hof
    exact (Option.some.inj hof).symm
  subst hobject
  have hc : (Token.name m.1, m.2) ∈ s.value.children := by
    rw [hv]
    exact List.mem_map.mpr ⟨m, hm, rfl⟩
  obtain ⟨g, hg⟩ := ChildSchema.forMember_of_error hn hp hsearch
  obtain ⟨g', hg'⟩ : ∃ g', Job.forChildren .object node s.value.children = .error g' :=
    Job.forChildren_of_error hc hg
  refine ⟨g', ?_⟩
  unfold descent runChildren Job.ofSite Site.node
  rw [hs]
  have hjobs : (do
      let members ← (Except.ok node : Except Fault Members)
      Job.forChildren .object members s.value.children) = .error g' := hg'
  rw [hjobs]
  simp

end Checker

namespace Setting

variable {e : Setting} {J : Judge}

theorem built_of_usable {node : Members} {kind : Kind} {v : Value} (hk : Kind.of? v = some kind)
    (h : Usable node v) : ∀ k ∈ Keyword.selected node kind, ∃ b, k.build node = .ok b := by
  intro k hsel
  obtain ⟨⟨w, hw⟩, hkind⟩ := Keyword.mem_selected.mp hsel
  exact (Keyword.build_isOk hw).mpr (h k w hw ⟨kind, hkind, hk⟩)

/-- A node that can be used fails once one of its keywords or its children do. -/
theorem round_fails (hv : e.vocabulary = .known) (hJ : J.Uniform) {s : Site} {node : Members}
    {kind : Kind} (hs : s.schema = .obj node) (hk : s.kind = .ok kind) (hu : Usable node s.value)
    (h : (∃ k ∈ Keyword.selected node kind, ∃ f, (k.outcome e J s node).verdict = .error f) ∨
      ∃ f, (Checker.descent e J kind s).verdict = .error f) :
    ∃ g, (e.round J s).outcome.verdict = .error g := by
  have hbuilt := built_of_usable (Kind.classify_ok.mp hk) hu
  obtain ⟨notes, hround⟩ := round_built hv hJ hs hk hbuilt
  rw [hround, Outcome.verdict_after]
  apply Outcome.verdict_andThen_fails
  rcases h with ⟨k, hsel, f, hf⟩ | h
  · exact .inl (Outcome.verdict_all_error (List.mem_map.mpr ⟨k, hsel, rfl⟩) hf)
  · exact .inr h

/-- A keyword that fails makes the round fail. -/
theorem round_fails_at (hv : e.vocabulary = .known) (hJ : J.Uniform) {s : Site} {node : Members}
    (hs : s.schema = .obj node) (hu : Usable node s.value) (k : Keyword) {w : Value}
    (hw : node.get? k.name = some w)
    (h : ∀ kind, s.kind = .ok kind →
      kind ∈ k.kinds ∧ ∃ f, (k.outcome e J s node).verdict = .error f) :
    ∃ g, (e.round J s).outcome.verdict = .error g := by
  have hne : node ≠ [] := by
    intro hnil
    subst hnil
    cases hw
  cases hk : s.kind with
  | error g => exact ⟨g, by rw [round_kind hs hne hk]⟩
  | ok kind =>
    obtain ⟨hkind, hfail⟩ := h kind hk
    have hsel := Keyword.mem_selected.mpr ⟨⟨w, hw⟩, hkind⟩
    exact round_fails hv hJ hs hk hu (.inl ⟨k, hsel, hfail⟩)

/-- Children that fail make the round fail. -/
theorem round_fails_below (hv : e.vocabulary = .known) (hJ : J.Uniform) {s : Site}
    {node : Members} (hs : s.schema = .obj node) (hne : node ≠ []) (hu : Usable node s.value)
    (h : ∀ kind, s.kind = .ok kind → ∃ f, (Checker.descent e J kind s).verdict = .error f) :
    ∃ g, (e.round J s).outcome.verdict = .error g := by
  cases hk : s.kind with
  | error g => exact ⟨g, by rw [round_kind hs hne hk]⟩
  | ok kind => exact round_fails hv hJ hs hk hu (.inr (h kind hk))

end Setting

namespace Keyword

variable {e : Setting} {J : Judge} {s : Site} {node : Members} {w : Value} {f : Fault}

theorem pattern_fails {source t : String} {p : Pattern}
    (hw : node.get? "pattern" = some (.str source)) (hv : s.value = .str t)
    (hp : Pattern.compile source = .ok p) (hsearch : p.search t = .error f) :
    (pattern.outcome e J s node).verdict = .error f := by
  have hb : build .pattern node = .ok (asTest (.pattern p)) :=
    patternBuilder_ok.mpr ⟨source, p, hw, hp, rfl⟩
  simp only [outcome, hb, asTest]
  exact Logic.verdict_judgeTest_error.mpr ((Test.pattern_error hv).mpr hsearch)

theorem format_fails (format : Format) {kind : Kind} (hk : s.kind = .ok kind)
    (hw : node.get? "format" = some (.str format.name)) (hkind : kind ∈ format.kinds)
    (hc : format.check s.value = .error f) :
    (Keyword.format.outcome e J s node).verdict = .error f := by
  have hb : build .format node = .ok (asTest (.format format)) :=
    formatBuilder_ok.mpr ⟨format.name, hw, .inl ⟨format, ofName?_name format, rfl⟩⟩
  simp only [outcome, hb, asTest]
  exact Logic.verdict_judgeTest_error.mpr ((Test.format_error hk).mpr ⟨hkind, hc⟩)

/-- A reference fails if its text cannot be read, or if its target does. -/
theorem reference_fails {ref : String} (hw : node.get? "$ref" = some (.str ref))
    (h : (e.documents.resolve (.str ref) s.location = .error f ∧ f.isReference = false) ∨
      ∃ l t, e.documents.resolve (.str ref) s.location = .ok (l, t) ∧ (l, s.path) ∉ s.trail ∧
        (J (s.follow t l)).outcome.verdict = .error f) :
    (reference.outcome e J s node).verdict = .error f := by
  have hb : build .reference node = .ok (.logic (.reference ref)) :=
    referenceBuilder_ok.mpr ⟨ref, hw, rfl⟩
  simp only [outcome, hb, Logic.run, Logic.judgeReference]
  rcases h with ⟨hr, hf⟩ | ⟨l, t, hr, hnew, hfail⟩
  · simp [hr, hf]
  · have hfresh : (e.loops != .follow && s.trail.contains (l, s.path)) = false := by
      simp [hnew]
    simp only [hr, hfresh]
    exact hfail

theorem extending_fails (hJ : J.Uniform) {t : Value} (hw : node.get? "extends" = some w)
    (hl : w.IsSchemaList) (ht : t ∈ w.listed)
    (h : ∀ l, ∃ g, (J (s.under t (s.location.append l))).outcome.verdict = .error g) :
    ∃ g, (extending.outcome e J s node).verdict = .error g := by
  obtain ⟨parts, hparts⟩ : ∃ parts, Expect.schemas "extends" w = .ok parts :=
    Expect.schemas_isOk hl
  have hb : build .extending node = .ok (.logic (.extending parts)) :=
    extendingBuilder_ok.mpr ⟨w, parts, hw, hparts, rfl⟩
  simp only [outcome, hb]
  rw [← (Expect.schemas_ok hparts).2] at ht
  obtain ⟨p, hp, rfl⟩ := List.mem_map.mp ht
  obtain ⟨g, hg⟩ := h (.name "extends" :: (p.position.map fun i => Token.index i).toList)
  exact Step.verdict_all_fails (hJ.map parts _) (List.mem_map.mpr ⟨p, hp, rfl⟩) hg

theorem dependencies_fails (hJ : J.Uniform) {deps ms : Members} {m : String × Value}
    (hw : node.get? "dependencies" = some (.obj deps)) (hd : ∀ m ∈ deps, m.2.IsDependency)
    (hv : s.value = .obj ms) (hm : m ∈ deps) (hhas : Members.has ms m.1) (hs : m.2.IsSchema)
    (h : ∀ l, ∃ g, (J (s.under m.2 (s.location.append l))).outcome.verdict = .error g) :
    ∃ g, (dependencies.outcome e J s node).verdict = .error g := by
  obtain ⟨⟨required, schemas⟩, hlist⟩ := dependencyList_isOk hd
  have hb : build .dependencies node = .ok (.logic (.dependencies required schemas)) :=
    dependenciesBuilder_ok.mpr ⟨deps, required, schemas, hw, hlist, rfl⟩
  simp only [outcome, hb, Logic.run, Logic.judgeDependencies, hv]
  have hmem := ((dependencyList_ok hlist).schemas m).mpr ⟨hm, hs⟩
  obtain ⟨g, hg⟩ := h [.name "dependencies", .name m.1]
  have hfail : (Logic.judgeDependent J s ms m).outcome.verdict = .error g := by
    unfold Logic.judgeDependent
    rw [if_pos hhas]
    exact hg
  exact Step.verdict_all_fails (Logic.uniform_dependencySteps hJ required schemas s ms)
    (List.mem_append_right _ (List.mem_map.mpr ⟨m, hmem, rfl⟩)) hfail

theorem types_fails (hJ : J.Uniform) {k : Keyword} (hk : k = .type ∨ k = .disallow)
    {pre post : List Value} {t : Value} (hw : node.get? k.name = some w) (htypes : w.IsTypes)
    (hnames : ¬ ∃ n ∈ w.names, Kind.holds (.str n) s.value = .ok true)
    (hl : w.schemas = pre ++ t :: post)
    (hpre : ∀ u ∈ pre, ∀ l, (J (s.scratch u (s.location.append l))).outcome.verdict ≠ .ok true)
    (ht : ∀ l, ∃ f, (J (s.scratch t (s.location.append l))).outcome.verdict = .error f) :
    ∃ g, (k.outcome e J s node).verdict = .error g := by
  have hbuilds (negated : Bool) (hb : ∃ b, typesBuilder k.name negated node = .ok b)
      (hbuild : k.build = typesBuilder k.name negated) :
      ∃ g, (k.outcome e J s node).verdict = .error g := by
    obtain ⟨b, hb⟩ := hb
    obtain ⟨w', parts, hw', _, hparts, rfl⟩ := typesBuilder_ok hb
    obtain rfl : w = w' := Option.some.inj (hw.symm.trans hw')
    rw [← hbuild] at hb
    simp only [outcome, hb]
    exact Logic.verdict_types_fails hJ hparts hnames hl hpre ht
  rcases hk with rfl | rfl
  · exact hbuilds false (typesBuilder_isOk hw htypes) rfl
  · exact hbuilds true (typesBuilder_isOk hw htypes) rfl

end Keyword

namespace Setting

variable {e : Setting} {J : Judge}

theorem mem_kinds {kind : Kind} : kind ∈ Kind.all := by
  cases kind <;> decide

theorem eq_string {s : Site} {t : String} {kind : Kind} (hv : s.value = .str t)
    (hk : s.kind = .ok kind) : kind = .string := by
  have hof := Kind.classify_ok.mp hk
  rw [hv] at hof
  exact (Option.some.inj hof).symm

/-- A round fails wherever a fault escapes if the judge of the sites below does. -/
theorem failsAll_round (hv : e.vocabulary = .known) (hJ : J.Uniform)
    (hmeans : J.Means e.documents) (hall : J.FailsAll e.documents) :
    (e.round J).FailsAll e.documents := by
  intro s f hpath h
  generalize hs : s.schema = schema at h
  cases h with
  | foreign hne hk => exact ⟨f, by rw [round_kind hs hne hk]⟩
  | @unwritten _ _ _ _ w k hu hw ha hholds hlong =>
    obtain ⟨kind', hkind, hof⟩ := ha
    apply round_fails_at hv hJ hs hu k hw
    intro kind hk
    obtain rfl : kind' = kind := Option.some.inj (hof.symm.trans (Kind.classify_ok.mp hk))
    have hsel := Keyword.mem_selected.mpr ⟨⟨w, hw⟩, hkind⟩
    obtain ⟨b, hb⟩ := built_of_usable hof hu k hsel
    have hcomplains :=
      Keyword.complains_of_isQuoting (Keyword.isQuoting_of_unwritten hlong) hb hw hk hkind
    exact ⟨hkind, .unwritable, hcomplains.verdict_error.mpr ⟨rfl, hholds, hlong⟩⟩
  | pattern hu hw hstr hp hsearch =>
    apply round_fails_at hv hJ hs hu .pattern hw
    intro kind hk
    obtain rfl := eq_string hstr hk
    exact ⟨by decide, f, Keyword.pattern_fails hw hstr hp hsearch⟩
  | regex hu hw hstr hp hf =>
    apply round_fails_at hv hJ hs hu .format hw
    intro kind hk
    obtain rfl := eq_string hstr hk
    have hcheck : Format.regex.check s.value = .error f := by
      rw [hstr]
      exact Format.check_error.mpr ⟨rfl, hp, hf⟩
    exact ⟨mem_kinds, f, Keyword.format_fails .regex hk hw (by decide) hcheck⟩
  | name hu hobj hm hn hp hsearch =>
    apply round_fails_below hv hJ hs hn.ne_nil hu
    intro kind hk
    exact Checker.descent_fails_of_search hs hk hobj hm hn hp hsearch
  | unreadable hu hw hr =>
    apply round_fails_at hv hJ hs hu .reference hw
    intro kind hk
    have hresolve := Documents.unreadable_iff.mp hr
    exact ⟨mem_kinds, f, Keyword.reference_fails hw (.inl hresolve)⟩
  | @target _ _ _ _ _ ref l t hu hw hr hnew h =>
    apply round_fails_at hv hJ hs hu .reference hw
    intro kind hk
    rw [← Site.visited_follow s t l] at h
    obtain ⟨g, hg⟩ := hall (s.follow t l) f (hpath.follow t l) h
    rw [← hpath.mem_trail_iff] at hnew
    exact ⟨mem_kinds, g, Keyword.reference_fails hw (.inr ⟨l, t, hr, hnew, hg⟩)⟩
  | @extending _ _ _ _ _ w t hu hw ht h =>
    apply round_fails_at hv hJ hs hu .extending hw
    intro kind hk
    have hl : w.IsSchemaList := hu .extending w hw ⟨kind, mem_kinds, Kind.classify_ok.mp hk⟩
    refine ⟨mem_kinds, Keyword.extending_fails hJ hw hl ht ?_⟩
    intro l
    exact hall (s.under t (s.location.append l)) f hpath h
  | @dependency _ _ _ deps ms _ _ m hu hw hobj hm hhas hschema h =>
    apply round_fails_at hv hJ hs hu .dependencies hw
    intro kind hk
    obtain ⟨deps', hdeps, hd⟩ := hu .dependencies _ hw ⟨kind, mem_kinds, Kind.classify_ok.mp hk⟩
    obtain rfl := Value.obj.inj hdeps
    refine ⟨mem_kinds, Keyword.dependencies_fails hJ hw hd hobj hm hhas hschema ?_⟩
    intro l
    exact hall (s.under m.2 (s.location.append l)) f hpath h
  | @trial _ _ _ _ _ k w t pre post hu hkeyword hw hnames hl hpre h =>
    apply round_fails_at hv hJ hs hu k hw
    intro kind hk
    have hkind : kind ∈ k.kinds := by
      rcases hkeyword with rfl | rfl
      · exact mem_kinds
      · exact mem_kinds
    have htypes : w.IsTypes := by
      have haccepts := hu k w hw ⟨kind, hkind, Kind.classify_ok.mp hk⟩
      rcases hkeyword with rfl | rfl
      · exact haccepts
      · exact haccepts
    refine ⟨hkind, Keyword.types_fails hJ hkeyword hw htypes hnames hl ?_ ?_⟩
    · -- a trial that says yes would be of a schema that is satisfied
      intro u hu' l hyes
      exact hpre u hu' ((hmeans (s.scratch u (s.location.append l)) true hpath hyes).mp rfl)
    · intro l
      exact hall (s.scratch t (s.location.append l)) f hpath h
  | @child _ _ _ _ _ c t hu hc hg h =>
    apply round_fails_below hv hJ hs hg.ne_nil hu
    intro kind hk
    refine Checker.descent_fails hJ hs hk hu hc hg ?_
    intro steps
    exact hall (s.child t c.2 c.1 steps) f (.of_trail_eq_nil rfl) h

/-- A judge that knows what is satisfied without judging anything. -/
theorem exists_oracle (d : Documents) :
    ∃ J : Judge, J.Uniform ∧ J.Means d ∧ J.FailsOnly d := by
  classical
  refine ⟨fun s => Step.answer (decide (s.Satisfied d)), fun _ => Step.uniform_answer _, ?_, ?_⟩
  · intro s b _ h
    rw [Step.outcome_answer] at h
    rw [← Except.ok.inj h, decide_eq_true_eq]
  · intro s f _ h
    rw [Step.outcome_answer] at h
    cases h

/-- However many rounds go before the oracle, they fail with nothing but what escapes. -/
theorem failsOnly_rounds (hv : e.vocabulary = .known) (hloops : e.loops = .report)
    (hJ : J.Uniform) (hmeans : J.Means e.documents) (honly : J.FailsOnly e.documents)
    (fuel : Nat) : (e.rounds J fuel).Uniform ∧ (e.rounds J fuel).Means e.documents ∧
      (e.rounds J fuel).FailsOnly e.documents := by
  have hfollow : e.loops ≠ .follow := by
    rw [hloops]
    decide
  induction fuel with
  | zero => exact ⟨hJ, hmeans, honly⟩
  | succ fuel ih =>
    obtain ⟨huniform, hmeans, honly⟩ := ih
    exact ⟨e.uniform_round huniform, means_round hv hfollow huniform hmeans,
      failsOnly_round hv hloops huniform hmeans honly⟩

theorem failsAll_judge (hv : e.vocabulary = .known) (hfollow : e.loops ≠ .follow) (fuel : Nat) :
    (e.judge fuel).FailsAll e.documents := by
  induction fuel with
  | zero =>
    intro s f _ _
    refine ⟨.outOfSteps, ?_⟩
    change (Step.abort .outOfSteps).outcome.verdict = _
    rw [Step.outcome_abort]
  | succ fuel ih => exact failsAll_round hv (e.uniform_judge fuel) (means_judge hv hfollow fuel) ih

/-- The fuel of a site being enough, judging fails with nothing but what escapes. -/
theorem escapes_of_judgeSite (hv : e.vocabulary = .known) (hloops : e.loops = .report) {s : Site}
    (hs : s.OnTrail e.documents) {f : Fault}
    (h : (e.judgeSite s).outcome.verdict = .error f) :
    Escapes e.documents s.location.uri s.visited s.schema s.value f := by
  have hfollow : e.loops ≠ .follow := by
    rw [hloops]
    decide
  -- the last round never counts, so the oracle may judge in its place
  obtain ⟨J, hJ, hmeans, honly⟩ := exists_oracle e.documents
  have heq := rounds_fuelFor hv hfollow hs J (Nat.le_refl (e.fuelFor s))
  rw [← heq] at h
  exact (failsOnly_rounds hv hloops hJ hmeans honly (e.fuelFor s)).2.2 s f hs.paths h

end Setting

namespace Documents

theorem storeAll_error {store entries : Members} {f : Fault}
    (h : storeAll store entries = .error f) :
    ∃ uri ∈ Members.keys store, address uri = .error f := by
  induction store generalizing entries with
  | nil => cases h
  | cons m store ih =>
    rcases Answer.do_error.mp h with h | ⟨key, _, h⟩
    · exact ⟨m.1, List.mem_cons_self, h⟩
    · obtain ⟨uri, huri, h⟩ := ih h
      exact ⟨uri, List.mem_cons_of_mem _ huri, h⟩

theorem address_ok_of_storeAll {store entries entries' : Members}
    (h : storeAll store entries = .ok entries') :
    ∀ uri ∈ Members.keys store, ∃ key, address uri = .ok key := by
  induction store generalizing entries with
  | nil =>
    intro uri huri
    cases huri
  | cons m store ih =>
    obtain ⟨key, hkey, h⟩ := Answer.do_ok.mp h
    exact List.forall_mem_cons.mpr ⟨⟨key, hkey⟩, ih h⟩

variable {root : Value} {baseUri : String} {store : Members}

/-- Documents are put together unless some address cannot be split. -/
theorem make_error {f : Fault} (h : make root baseUri store = .error f) :
    ∃ uri ∈ baseUri :: Members.keys store, address uri = .error f := by
  rcases Answer.do_error.mp h with h | ⟨entries, _, h⟩
  · obtain ⟨uri, huri, h⟩ := storeAll_error h
    exact ⟨uri, List.mem_cons_of_mem _ huri, h⟩
  · rcases Answer.do_error.mp h with h | ⟨base, _, h⟩
    · exact ⟨baseUri, List.mem_cons_self, h⟩
    · cases h

theorem address_ok_of_make {d : Documents} (h : make root baseUri store = .ok d) :
    ∀ uri ∈ baseUri :: Members.keys store, ∃ key, address uri = .ok key := by
  obtain ⟨entries, hentries, h⟩ := Answer.do_ok.mp h
  obtain ⟨base, hbase, _⟩ := Answer.do_ok.mp h
  exact List.forall_mem_cons.mpr ⟨⟨base, hbase⟩, address_ok_of_storeAll hentries⟩

end Documents

namespace Validator

/-- The faults that validating one value with documents made for its schema can end in: an address
that cannot be split, or what escapes judging. -/
inductive Raises (schema : Value) (baseUri : String) (store : Members) (x : Value) : Fault → Prop
  | address {uri : String} {f : Fault} (hu : uri ∈ baseUri :: Members.keys store)
      (h : Documents.address uri = .error f) : Raises schema baseUri store x f
  | judging {d : Documents} {f : Fault} (hd : Documents.make schema baseUri store = .ok d)
      (h : Escapes d d.baseUri [] schema x f) : Raises schema baseUri store x f

variable {schema : Value} {o : Options} {baseUri : String} {store : Members} {x : Value} {f : Fault}

theorem validate_error {v : Validator} : (v.validate x).2 = .error f ↔
    (v.setting.judgeSite (v.site x)).outcome.verdict = .error f := by
  unfold validate
  rw [findings_eq, Outcome.onto]
  cases (v.setting.judgeSite (v.site x)).outcome.verdict with
  | error g => simp
  | ok b => simp

/-- The validator that is made for a schema when no documents are given. -/
theorem make_none : make schema .known o none baseUri store =
    (Documents.make schema baseUri store).map fun d =>
      ⟨schema, ⟨.known, d, o, .report⟩, ⟨d.baseUri, .root⟩⟩ := by
  unfold make
  cases Documents.make schema baseUri store <;> rfl

theorem escapes_of_validate {d : Documents}
    (h : (validate ⟨schema, ⟨.known, d, o, .report⟩, ⟨d.baseUri, .root⟩⟩ x).2 = .error f) :
    Escapes d d.baseUri [] schema x f :=
  Setting.escapes_of_judgeSite rfl rfl (.of_trail_eq_nil rfl) (validate_error.mp h)

theorem validate_fails {d : Documents} (h : Escapes d d.baseUri [] schema x f) :
    ∃ g, (validate ⟨schema, ⟨.known, d, o, .report⟩, ⟨d.baseUri, .root⟩⟩ x).2 = .error g := by
  have hfollow : LoopPolicy.report ≠ .follow := by decide
  let v : Validator := ⟨schema, ⟨.known, d, o, .report⟩, ⟨d.baseUri, .root⟩⟩
  have hall := Setting.failsAll_judge (e := v.setting) rfl hfollow (v.setting.fuelFor (v.site x))
  obtain ⟨g, hg⟩ := hall (v.site x) f (.of_trail_eq_nil rfl) h
  exact ⟨g, validate_error.mpr hg⟩

/-- Validation comes to a result exactly if no fault escapes, and fails with one that does. -/
theorem result_or_raises (schema : Value) (o : Options) (baseUri : String) (store : Members)
    (x : Value) :
    let run : Except Fault Result := do
      let v ← make schema .known o none baseUri store
      (v.validate x).2
    ((∃ r, run = .ok r) ↔ ∀ f, ¬ Raises schema baseUri store x f) ∧
      ∀ f, run = .error f → Raises schema baseUri store x f := by
  intro run
  have hrun : run = (Documents.make schema baseUri store).bind fun d =>
      (validate ⟨schema, ⟨.known, d, o, .report⟩, ⟨d.baseUri, .root⟩⟩ x).2 := by
    change (make schema .known o none baseUri store).bind _ = _
    rw [make_none]
    cases Documents.make schema baseUri store <;> rfl
  have hraises (f : Fault) (h : run = .error f) : Raises schema baseUri store x f := by
    rw [hrun] at h
    rcases Answer.bind_error.mp h with h | ⟨d, hd, h⟩
    · obtain ⟨uri, huri, h⟩ := Documents.make_error h
      exact .address huri h
    · exact .judging hd (escapes_of_validate h)
  refine ⟨⟨?_, ?_⟩, hraises⟩
  · intro hok f hf
    obtain ⟨r, hr⟩ := hok
    rw [hrun] at hr
    obtain ⟨d, hd, hr⟩ := Answer.bind_ok.mp hr
    cases hf with
    | address huri h =>
      obtain ⟨key, hkey⟩ := Documents.address_ok_of_make hd _ huri
      cases hkey.symm.trans h
    | judging hd' h =>
      obtain rfl := Except.ok.inj (hd.symm.trans hd')
      obtain ⟨g, hg⟩ := validate_fails h
      cases hg.symm.trans hr
  · intro hno
    cases hr : run with
    | ok r => exact ⟨r, rfl⟩
    | error f => exact absurd (hraises f hr) (hno f)

/-- A reference with a bracket that is not closed is no reference that leads nowhere: splitting it
fails, and nothing catches that. -/
theorem malformed_reference_raises :
    let schema : Value := .obj [("$ref", .str "http://[x#")]
    let run : Except Fault Result := do
      let v ← make schema .known {} none "" []
      (v.validate (.int 1)).2
    run = .error (.badValue "Invalid IPv6 URL") ∧ ¬ ∃ r, run = .ok r := by
  intro schema run
  have hrun : run = .error (.badValue "Invalid IPv6 URL") := rfl
  refine ⟨hrun, ?_⟩
  intro hok
  obtain ⟨r, hr⟩ := hok
  cases hrun.symm.trans hr

end Validator

end Conform
