import Conform.Proofs.Failing
import Conform.Proofs.References

/-!
What makes judging fail instead of answering. Keyword values that cannot be used are complained
about, and so are references that lead nowhere. There remain five causes of a fault that escapes: a
value that no document holds, a complaint that quotes an integer with more digits than are written,
a text that a pattern cannot be searched in, a text that is asked to be a pattern and is too much of
one, and a reference whose text cannot be read. Each of them counts where it is come upon: at nodes
that can be used, in alternatives that are tried, and along references that are followed.
-/
namespace Conform

/-- Every keyword of the node that applies to a value has a value of the right shape. -/
def Usable (node : Members) (v : Value) : Prop :=
  ∀ (k : Keyword) w, node.get? k.name = some w → k.Applies v → k.Accepts node w

/-- A fault that judging a value against a node of the document at `uri` comes upon, the targets of
the references followed so far at this value being `seen`. -/
inductive Escapes (d : Documents) : String → List Location → Value → Value → Fault → Prop
  | foreign {uri : String} {seen : List Location} {node : Members} {v : Value} {f : Fault}
      (hne : node ≠ []) (hk : Kind.classify v = .error f) : Escapes d uri seen (.obj node) v f
  | unwritten {uri : String} {seen : List Location} {node : Members} {v w : Value} {k : Keyword}
      (hu : Usable node v) (hw : node.get? k.name = some w) (ha : k.Applies v)
      (hholds : ¬ k.Holds node w v) (hlong : k.Unwritten w v) :
      Escapes d uri seen (.obj node) v .unwritable
  | pattern {uri : String} {seen : List Location} {node : Members} {v : Value} {f : Fault}
      {source t : String} {p : Pattern} (hu : Usable node v)
      (hw : node.get? "pattern" = some (.str source)) (hv : v = .str t)
      (hp : Pattern.compile source = .ok p) (hs : p.search t = .error f) :
      Escapes d uri seen (.obj node) v f
  | regex {uri : String} {seen : List Location} {node : Members} {v : Value} {f : Fault}
      {t : String} (hu : Usable node v) (hw : node.get? "format" = some (.str "regex"))
      (hv : v = .str t) (hp : Pattern.compile t = .error f) (hf : ∀ message, f ≠ .pattern message) :
      Escapes d uri seen (.obj node) v f
  | name {uri : String} {seen : List Location} {node ms : Members} {v : Value} {f : Fault}
      {source : String} {t : Value} {p : Pattern} {m : String × Value} (hu : Usable node v)
      (hv : v = .obj ms) (hm : m ∈ ms) (hn : Names node "patternProperties" source t)
      (hp : Pattern.compile source = .ok p) (hs : p.search m.1 = .error f) :
      Escapes d uri seen (.obj node) v f
  | unreadable {uri : String} {seen : List Location} {node : Members} {v : Value} {f : Fault}
      {ref : String} (hu : Usable node v) (hw : node.get? "$ref" = some (.str ref))
      (hr : d.Unreadable uri ref f) : Escapes d uri seen (.obj node) v f
  | target {uri : String} {seen : List Location} {node : Members} {v : Value} {f : Fault}
      {ref : String} {l : Location} {t : Value} (hu : Usable node v)
      (hw : node.get? "$ref" = some (.str ref))
      (hr : d.resolve (.str ref) { uri } = .ok (l, t)) (hnew : l ∉ seen)
      (h : Escapes d l.uri (seen ++ [l]) t v f) : Escapes d uri seen (.obj node) v f
  | extending {uri : String} {seen : List Location} {node : Members} {v : Value} {f : Fault}
      {w t : Value} (hu : Usable node v) (hw : node.get? "extends" = some w) (ht : t ∈ w.listed)
      (h : Escapes d uri seen t v f) : Escapes d uri seen (.obj node) v f
  | dependency {uri : String} {seen : List Location} {node deps ms : Members} {v : Value}
      {f : Fault} {m : String × Value} (hu : Usable node v)
      (hw : node.get? "dependencies" = some (.obj deps)) (hv : v = .obj ms) (hm : m ∈ deps)
      (hhas : Members.has ms m.1) (hs : m.2.IsSchema) (h : Escapes d uri seen m.2 v f) :
      Escapes d uri seen (.obj node) v f
  | trial {uri : String} {seen : List Location} {node : Members} {v : Value} {f : Fault}
      {k : Keyword} {w t : Value} {pre post : List Value} (hu : Usable node v)
      (hk : k = .type ∨ k = .disallow) (hw : node.get? k.name = some w)
      (hnames : ¬ ∃ n ∈ w.names, Kind.holds (.str n) v = .ok true)
      (hl : w.schemas = pre ++ t :: post) (hpre : ∀ u ∈ pre, ¬ Satisfies d uri seen u v)
      (h : Escapes d uri seen t v f) : Escapes d uri seen (.obj node) v f
  | child {uri : String} {seen : List Location} {node : Members} {v : Value} {f : Fault}
      {c : Token × Value} {t : Value} (hu : Usable node v) (hc : c ∈ v.children)
      (hg : Governs node c.1 t) (h : Escapes d uri [] t c.2 f) :
      Escapes d uri seen (.obj node) v f

/-- A judge that fails with nothing but faults that escape. -/
def Judge.FailsOnly (d : Documents) (J : Judge) : Prop :=
  ∀ s f, s.AtPath → (J s).outcome.verdict = .error f →
    Escapes d s.location.uri s.visited s.schema s.value f

/-- A judge that fails wherever some fault escapes. -/
def Judge.FailsAll (d : Documents) (J : Judge) : Prop :=
  ∀ s f, s.AtPath → Escapes d s.location.uri s.visited s.schema s.value f →
    ∃ g, (J s).outcome.verdict = .error g

namespace Keyword

variable {e : Setting} {J : Judge} {s : Site} {node : Members} {kind : Kind} {w : Value} {f : Fault}

/-- The tests of plain keywords fail only in a search, in a format check, or for what they quote. -/
theorem escapes_of_plain {k : Keyword} {b : Built} (hplain : k.isPlain)
    (hb : k.build node = .ok b) (hw : node.get? k.name = some w) (hk : s.kind = .ok kind)
    (hkind : kind ∈ k.kinds) (hu : Usable node s.value) (hs : s.schema = .obj node)
    (h : (k.outcome e J s node).verdict = .error f) :
    Escapes e.documents s.location.uri s.visited s.schema s.value f := by
  have hof := Kind.classify_ok.mp hk
  have hone {kind' : Kind} (h : kind ∈ [kind']) : Kind.of? s.value = some kind' := by
    rw [hof, List.mem_singleton.mp h]
  have htest {t : Test} (ht : k.build node = .ok (asTest t)) : t.finding s = .error f := by
    simp only [outcome, ht, asTest] at h
    exact Logic.verdict_judgeTest_error.mp h
  have hpass (ht : k.build node = .ok (.checker .always)) : False := by
    simp only [outcome, ht] at h
    cases h
  rw [hs]
  -- one case for each builder: what test it makes, and whether that can fail
  cases k with
  | additionalItems =>
    obtain ⟨xs, hv⟩ := Value.eq_arr_of_kind (hone hkind)
    obtain ⟨_, _, _, ⟨ys, _, _, rfl⟩ | ⟨_, rfl⟩⟩ := additionalItemsBuilder_ok.mp hb
    · exact absurd (htest hb) (Test.tells_tupleLength hv).ne_error
    · exact (hpass hb).elim
  | additionalProperties =>
    obtain ⟨ms, hv⟩ := Value.eq_obj_of_kind (hone hkind)
    obtain ⟨_, _, ⟨_, rfl⟩ | ⟨_, declared, sources, ps, _, hsources, hp, rfl⟩⟩ :=
      additionalPropertiesBuilder_ok.mp hb
    · exact (hpass hb).elim
    · obtain ⟨m, hm, p, hps, hsearch⟩ := Test.closed_error hv (htest hb)
      obtain ⟨source, hsource, hcompile⟩ := exists_source_of_mem hp hps
      obtain ⟨⟨name, t⟩, hmem, rfl⟩ := List.mem_map.mp hsource
      rcases ownOr_eq_obj.mp hsources with hw' | ⟨_, rfl⟩
      · exact .name hu hv hm ⟨sources, hw', hmem⟩ hcompile hsearch
      · simp at hmem
  | divisibleBy | enum | maximum | minimum | maxItems | minItems | maxLength | minLength =>
    obtain ⟨rfl, hno, hlong⟩ :=
      (complains_of_isQuoting rfl hb hw hk hkind).verdict_error.mp h
    exact .unwritten hu hw ⟨kind, hkind, hof⟩ hno hlong
  | format =>
    obtain ⟨name, hw', ⟨g, hg, rfl⟩ | ⟨_, rfl⟩⟩ := formatBuilder_ok.mp hb
    · obtain ⟨hmem, hcheck⟩ := (Test.format_error hk).mp (htest hb)
      have hname : g.name = name := by simpa using List.find?_some hg
      rw [← hname] at hw'
      obtain ⟨rfl, hcompile, hpattern⟩ := Format.check_error.mp hcheck
      obtain ⟨t, hv⟩ := Value.eq_str_of_kind (hone hmem)
      rw [hv] at hcompile
      exact .regex hu hw' hv hcompile hpattern
    · simp only [outcome, hb] at h
      rw [Step.outcome_eq (Logic.unknownFormat_onto e J _ name s)] at h
      cases h
  | items =>
    obtain ⟨_, _, _, rfl⟩ := itemsBuilder_ok.mp hb
    exact (hpass hb).elim
  | pattern =>
    obtain ⟨t, hv⟩ := Value.eq_str_of_kind (hone hkind)
    obtain ⟨source, p, hw', hp, rfl⟩ := patternBuilder_ok.mp hb
    exact .pattern hu hw' hv hp ((Test.pattern_error hv).mp (htest hb))
  | patternProperties =>
    obtain ⟨_, _, _, _, rfl⟩ := patternPropertiesBuilder_ok.mp hb
    exact (hpass hb).elim
  | properties =>
    obtain ⟨ms, hv⟩ := Value.eq_obj_of_kind (hone hkind)
    obtain ⟨_, names, _, _, hbuilt⟩ := propertiesBuilder_ok.mp hb
    rw [hbuilt] at hb
    split at hb
    · exact (hpass hb).elim
    · exact absurd (htest hb) (Test.tells_required hv).ne_error
  | uniqueItems =>
    obtain ⟨xs, hv⟩ := Value.eq_arr_of_kind (hone hkind)
    obtain ⟨wanted, _, hbuilt⟩ := uniqueItemsBuilder_ok.mp hb
    rw [hbuilt] at hb
    split at hb
    · exact absurd (htest hb) (Test.tells_distinct hv).ne_error
    · exact (hpass hb).elim
  | _ => cases hplain

theorem escapes_of_dependencies (hJ : J.Uniform) (honly : J.FailsOnly e.documents)
    (hpath : s.AtPath) (hu : Usable node s.value) {deps : Members}
    {required : List (String × List String)} {schemas : Members}
    (hw : node.get? "dependencies" = some (.obj deps))
    (hd : dependencyList deps = .ok (required, schemas))
    (h : (Logic.judgeDependencies J required schemas s).outcome.verdict = .error f) :
    Escapes e.documents s.location.uri s.visited (.obj node) s.value f := by
  unfold Logic.judgeDependencies at h
  split at h
  · rename_i ms hv
    obtain ⟨step, hstep, h⟩ :=
      Step.verdict_all_error (Logic.uniform_dependencySteps hJ required schemas s ms) h
    rcases List.mem_append.mp hstep with hstep | hstep
    · obtain ⟨r, _, rfl⟩ := List.mem_map.mp hstep
      unfold Logic.judgeRequired at h
      dsimp only at h
      split at h
      · split at h
        · simp at h
        · simp at h
      · simp at h
    · obtain ⟨m, hm, rfl⟩ := List.mem_map.mp hstep
      obtain ⟨hmem, hschema⟩ := ((dependencyList_ok hd).schemas m).mp hm
      unfold Logic.judgeDependent at h
      split at h
      · rename_i hhas
        have hescapes : Escapes e.documents s.location.uri s.visited m.2 s.value f :=
          honly (s.under m.2 (s.location.append [.name "dependencies", .name m.1])) f hpath h
        exact .dependency hu hw hv hmem hhas hschema hescapes
      · simp at h
  · simp at h

theorem escapes_of_types (hJ : J.Uniform) (hmeans : J.Means e.documents)
    (honly : J.FailsOnly e.documents) (hpath : s.AtPath) (hk : s.kind = .ok kind)
    (hu : Usable node s.value) {k : Keyword} (hkeyword : k = .type ∨ k = .disallow)
    {parts : List Part} {negated : Bool} (hw : node.get? k.name = some w) (htypes : w.IsTypes)
    (hparts : parts.map (·.schema) = w.schemas)
    (h : (Logic.judgeTypes J k.name w.names parts negated s).outcome.verdict = .error f) :
    Escapes e.documents s.location.uri s.visited (.obj node) s.value f := by
  obtain ⟨hnames, pre, t, post, hl, hpre, l, ht⟩ :=
    Logic.verdict_types_error hJ hk htypes hparts h
  have hescapes : Escapes e.documents s.location.uri s.visited t s.value f :=
    honly (s.scratch t (s.location.append l)) f hpath ht
  refine .trial hu hkeyword hw hnames hl ?_ hescapes
  -- the trials before it said no, so their schemas are not satisfied
  intro u hu' hsat
  obtain ⟨l', hno⟩ := hpre u hu'
  have hyes := (hmeans (s.scratch u (s.location.append l')) false hpath hno).mpr hsat
  cases hyes

theorem escapes_of_reference (honly : J.FailsOnly e.documents) (hloops : e.loops = .report)
    (hpath : s.AtPath) (hu : Usable node s.value) {ref : String}
    (hw : node.get? "$ref" = some (.str ref))
    (h : (Logic.judgeReference e J ref s).outcome.verdict = .error f) :
    Escapes e.documents s.location.uri s.visited (.obj node) s.value f := by
  unfold Logic.judgeReference at h
  split at h
  · rename_i g hr
    split at h
    · simp at h
    · rename_i hdefect
      obtain rfl : g = f := by simpa using h
      have hreference : g.isReference = false := by simpa using hdefect
      exact .unreadable hu hw (Documents.unreadable_iff.mpr ⟨hr, hreference⟩)
  · rename_i location target hr
    split at h
    · rw [hloops] at h
      simp at h
    · rename_i hnew
      have hfresh : location ∉ s.visited := by
        simpa [hloops, hpath.mem_trail_iff] using hnew
      have hescapes := honly (s.follow target location) f (hpath.follow target location) h
      rw [Site.visited_follow] at hescapes
      exact .target hu hw hr hfresh hescapes

/-- Whatever fault a keyword fails with escapes. -/
theorem escapes_of_error (hJ : J.Uniform) (hmeans : J.Means e.documents)
    (honly : J.FailsOnly e.documents) (hloops : e.loops = .report) (hpath : s.AtPath)
    (hk : s.kind = .ok kind) (hs : s.schema = .obj node) (hu : Usable node s.value) {k : Keyword}
    {b : Built} (hb : k.build node = .ok b) (hw : node.get? k.name = some w)
    (hkind : kind ∈ k.kinds) (h : (k.outcome e J s node).verdict = .error f) :
    Escapes e.documents s.location.uri s.visited s.schema s.value f := by
  cases k with
  | dependencies =>
    obtain ⟨deps, required, schemas, hw', hd, rfl⟩ := dependenciesBuilder_ok.mp hb
    simp only [outcome, hb] at h
    rw [hs]
    exact escapes_of_dependencies hJ honly hpath hu hw' hd h
  | disallow =>
    obtain ⟨w', parts, hw', htypes, hparts, rfl⟩ := typesBuilder_ok hb
    simp only [outcome, hb] at h
    rw [hs]
    exact escapes_of_types hJ hmeans honly hpath hk hu (.inr rfl) hw' htypes hparts h
  | type =>
    obtain ⟨w', parts, hw', htypes, hparts, rfl⟩ := typesBuilder_ok hb
    simp only [outcome, hb] at h
    rw [hs]
    exact escapes_of_types hJ hmeans honly hpath hk hu (.inl rfl) hw' htypes hparts h
  | extending =>
    obtain ⟨w', parts, hw', hparts, rfl⟩ := extendingBuilder_ok.mp hb
    simp only [outcome, hb] at h
    rw [hs]
    obtain ⟨step, hstep, h⟩ := Step.verdict_all_error (hJ.map parts _) h
    obtain ⟨p, hp, rfl⟩ := List.mem_map.mp hstep
    have hlisted : p.schema ∈ w'.listed := by
      rw [← (Expect.schemas_ok hparts).2]
      exact List.mem_map.mpr ⟨p, hp, rfl⟩
    have hescapes : Escapes e.documents s.location.uri s.visited p.schema s.value f :=
      honly (s.under p.schema (Logic.partLocation s "extends" p)) f hpath h
    exact .extending hu hw' hlisted hescapes
  | reference =>
    obtain ⟨ref, hw', rfl⟩ := referenceBuilder_ok.mp hb
    simp only [outcome, hb] at h
    rw [hs]
    exact escapes_of_reference honly hloops hpath hu hw' h
  | _ => exact escapes_of_plain rfl hb hw hk hkind hu hs h

end Keyword

namespace Checker

variable {e : Setting} {J : Judge} {s : Site} {node : Members} {kind : Kind} {f : Fault}

/-- There are no jobs just where a name cannot be searched for some pattern. -/
theorem escapes_of_ofSite {d : Documents} (hs : s.schema = .obj node) (hk : s.kind = .ok kind)
    (hkind : kind = .array ∨ kind = .object) (hu : Usable node s.value)
    (h : Job.ofSite kind s = .error f) :
    Escapes d s.location.uri s.visited (.obj node) s.value f := by
  have hof := Kind.classify_ok.mp hk
  have hjobs : Job.forChildren kind node s.value.children = .error f := by
    simpa [Job.ofSite, Site.node, hs] using h
  obtain ⟨c, hc, hfail⟩ := Job.forChildren_error hjobs
  rcases hkind with rfl | rfl
  · obtain ⟨xs, hv⟩ := Value.eq_arr_of_kind hof
    rw [hv] at hc
    obtain ⟨i, hi, _⟩ := Value.index_of_mem_children hc
    rw [hi] at hfail
    exact absurd hfail ChildSchema.forElement_ne_error
  · obtain ⟨ms, hv⟩ := Value.eq_obj_of_kind hof
    rw [hv] at hc
    obtain ⟨name, hname, hmem⟩ := Value.name_of_mem_children hc
    rw [hname] at hfail
    obtain ⟨source, t, hn, hcause⟩ := ChildSchema.forMember_error hfail
    obtain ⟨ps, hps, hsource⟩ := hn
    -- the patterns of a usable node can all be read
    have haccepts := hu .patternProperties (.obj ps) hps ⟨.object, by decide, hof⟩
    obtain ⟨p, hp⟩ := haccepts.2 ps rfl _ hsource
    rcases hcause with hcompile | ⟨q, hq, hsearch⟩
    · cases hp.symm.trans hcompile
    · exact .name hu hv hmem ⟨ps, hps, hsource⟩ hq hsearch

theorem escapes_of_descent (hJ : J.Uniform) (honly : J.FailsOnly e.documents)
    (hs : s.schema = .obj node) (hk : s.kind = .ok kind) (hu : Usable node s.value)
    (h : (descent e J kind s).verdict = .error f) :
    Escapes e.documents s.location.uri s.visited (.obj node) s.value f := by
  unfold descent at h
  split at h
  · rename_i hkind
    cases hjobs : Job.ofSite kind s with
    | error g =>
      have hfg : g = f := by simpa [runChildren, hjobs] using h
      rw [hfg] at hjobs
      exact escapes_of_ofSite hs hk hkind hu hjobs
    | ok jobs =>
      rw [verdict_runChildren hJ hjobs] at h
      obtain ⟨o, ho, h⟩ := Outcome.exists_of_verdict_all_error h
      obtain ⟨j, hj, rfl⟩ := List.mem_map.mp ho
      have hitems : kind = .array → ∀ w, node.get? "items" = some w → w.IsSchemaList := by
        intro harray w hw
        rw [harray] at hk
        exact hu .items w hw ⟨.array, by decide, Kind.classify_ok.mp hk⟩
      obtain ⟨hc, hg⟩ := (Job.mem_ofSite hs hk hkind hitems hjobs).mp ⟨j, hj, rfl, rfl⟩
      have hescapes : Escapes e.documents s.location.uri [] j.schema.schema j.value f :=
        honly (j.site s) f (.of_trail_eq_nil rfl) h
      exact .child hu hc hg hescapes
  · cases h

end Checker

namespace Setting

variable {e : Setting} {J : Judge}

theorem usable_of_built {node : Members} {kind : Kind} {v : Value} (hk : Kind.of? v = some kind)
    (h : ∀ k ∈ Keyword.selected node kind, ∃ b, k.build node = .ok b) : Usable node v := by
  intro k w hw ha
  obtain ⟨kind', hkind, hof⟩ := ha
  obtain rfl : kind = kind' := Option.some.inj (hk.symm.trans hof)
  exact (Keyword.build_isOk hw).mp (h k (Keyword.mem_selected.mpr ⟨⟨w, hw⟩, hkind⟩))

/-- A round fails with nothing but what escapes if the judge of the sites below does. -/
theorem failsOnly_round (hv : e.vocabulary = .known) (hloops : e.loops = .report)
    (hJ : J.Uniform) (hmeans : J.Means e.documents) (honly : J.FailsOnly e.documents) :
    (e.round J).FailsOnly e.documents := by
  intro s f hpath h
  have hround := round_cases hv hJ s
  generalize (e.round J s).outcome = o at h hround
  cases hround with
  | shape => cases h
  | nil => cases h
  | foreign hs hne hk =>
    obtain rfl := Except.error.inj h
    rw [hs]
    exact .foreign hne hk
  | unbuilt => cases h
  | built hs hk hbuilt =>
    have hu := usable_of_built (Kind.classify_ok.mp hk) hbuilt
    rw [Outcome.verdict_after] at h
    rcases Outcome.verdict_andThen_error.mp h with h | ⟨_, _, h⟩
    · obtain ⟨o, ho, h⟩ := Outcome.exists_of_verdict_all_error h
      obtain ⟨k, hsel, rfl⟩ := List.mem_map.mp ho
      obtain ⟨⟨w, hw⟩, hkind⟩ := Keyword.mem_selected.mp hsel
      obtain ⟨b, hb⟩ := hbuilt k hsel
      exact Keyword.escapes_of_error hJ hmeans honly hloops hpath hk hs hu hb hw hkind h
    · rw [hs]
      exact Checker.escapes_of_descent hJ honly hs hk hu h

end Setting

end Conform
