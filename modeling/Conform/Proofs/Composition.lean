import Conform.Proofs.Children
import Conform.Proofs.Dispatch

/-!
Dispatch with any vocabulary. The entries that a node selects are built in their order. The first
that makes no checker ends this, and all that is left of the node is one complaint about it. If
each makes one, the node comes to what these checkers come to, in the order of the entries, and
then to what each child comes to under each schema that the node has for it: verdicts are joined
and messages strung together, whoever says no on the way.
-/
namespace Conform

namespace Entry

/-- What an entry makes at a site: a checker, unless its builder fails or hands back something
that is none and no logic either. -/
def checker (x : Entry) (s : Site) : Except Fault Checker :=
  (x.builder s).2.bind (Checker.ofBuilt x.name s)

end Entry

/-- An entry of a known keyword makes what the keyword asks for, if that can be told. -/
theorem Keyword.checker_entry {k : Keyword} {s : Site} {node : Members} (hs : s.schema = .obj node)
    (kinds : List Kind) (i : Nat) : Entry.checker ⟨k.name, kinds, k.builder, i⟩ s =
      (k.build node).map fun _ => k.checker node s := by
  unfold Entry.checker
  dsimp only
  rw [builder_eq hs]
  cases hb : k.build node with
  | error f => rfl
  | ok b => exact ofBuilt_of_build hb s

namespace Outcome

/-- Whether an outcome is a verdict and says yes. -/
def holds (o : Outcome) : Bool :=
  match o.verdict with
  | .ok b => b
  | .error _ => false

theorem holds_of_ok {o : Outcome} {b : Bool} (h : o.verdict = .ok b) : o.holds = b := by
  simp [holds, h]

/-- Steps in turn that all answer find what each of them finds, one after the other, and say yes
if all do. -/
theorem all_of_answers {os : List Outcome} (h : ∀ o ∈ os, ∃ b, o.verdict = .ok b) :
    (all os).messages = os.flatMap (·.messages) ∧ (all os).verdict = .ok (os.all holds) := by
  induction os with
  | nil => exact ⟨rfl, rfl⟩
  | cons o os ih =>
    obtain ⟨⟨b, hb⟩, hos⟩ := List.forall_mem_cons.mp h
    obtain ⟨hmessages, hverdict⟩ := ih hos
    -- the first has answered, so the others run behind it
    have hrun : (all (o :: os)) =
        ⟨(all os).notes ++ o.notes, o.messages ++ (all os).messages,
          (all os).verdict.map (b && ·)⟩ := by
      simp only [all, andThen, hb]
    refine ⟨?_, ?_⟩
    · rw [hrun, hmessages, List.flatMap_cons]
    · rw [hrun, hverdict, List.all_cons, holds_of_ok hb]
      rfl

theorem all_append_of_answers {os ps : List Outcome} (hos : ∀ o ∈ os, ∃ b, o.verdict = .ok b)
    (hps : ∀ o ∈ ps, ∃ b, o.verdict = .ok b) :
    ((all os).andThen (all ps)).messages = (os ++ ps).flatMap (·.messages) ∧
      ((all os).andThen (all ps)).verdict = .ok ((os ++ ps).all holds) := by
  obtain ⟨hm, hv⟩ := all_of_answers hos
  obtain ⟨hm', hv'⟩ := all_of_answers hps
  simp only [andThen, hv, hm, hm', hv', List.flatMap_append, List.all_append]
  exact ⟨trivial, rfl⟩

/-- Notes taken on the way of a second step show neither in the messages nor in the verdict. -/
theorem messages_andThen_after (a b : Outcome) (ns : List Note) :
    (a.andThen (b.after ns)).messages = (a.andThen b).messages := by
  unfold andThen
  split <;> rfl

theorem verdict_andThen_after (a b : Outcome) (ns : List Note) :
    (a.andThen (b.after ns)).verdict = (a.andThen b).verdict := by
  rw [verdict_andThen, verdict_andThen, verdict_after]

theorem apart_of_ok {o : Outcome} {b : Bool} (h : o.verdict = .ok b) : o.apart = o := by
  simp only [apart, h]

end Outcome

namespace Checker

variable {s : Site}

/-- The notes that the builders of some entries take. -/
def buildNotes (s : Site) (es : List Entry) : List Note := es.flatMap fun x => (x.builder s).1

/-- Entries that each make a checker are built to these. -/
theorem build_of_forall {es : List Entry} {cs : List Checker}
    (h : List.Forall₂ (fun x c => x.checker s = .ok c) es cs) :
    build s es = (buildNotes s es, .ok cs) := by
  induction h with
  | nil => rfl
  | @cons x c es cs hx _ ih =>
    have hbound : (x.builder s).2.bind (ofBuilt x.name s) = .ok c := hx
    simp only [build, hbound, ih]
    rfl

/-- The first entry that makes no checker ends the building: what was built before it is dropped,
and what stands behind it does not matter. -/
theorem build_of_first {pre post : List Entry} {bad : Entry} {f : Fault}
    (hpre : ∀ x ∈ pre, ∃ c, x.checker s = .ok c) (hbad : bad.checker s = .error f) :
    build s (pre ++ bad :: post) = (buildNotes s (pre ++ [bad]), .error (bad.name, f)) := by
  induction pre with
  | nil =>
    have hbound : (bad.builder s).2.bind (ofBuilt bad.name s) = .error f := hbad
    simp only [List.nil_append, build, hbound, buildNotes, List.flatMap_cons, List.flatMap_nil,
      List.append_nil]
  | cons x pre ih =>
    obtain ⟨⟨c, hx⟩, hrest⟩ := List.forall_mem_cons.mp hpre
    have hbound : (x.builder s).2.bind (ofBuilt x.name s) = .ok c := hx
    simp only [List.cons_append, build, hbound, ih hrest]
    rfl

/-- Some entry makes no checker, so there is a first one. -/
theorem exists_first {es : List Entry} (h : ∃ x ∈ es, ∃ f, x.checker s = .error f) :
    ∃ pre bad post f, es = pre ++ bad :: post ∧ (∀ x ∈ pre, ∃ c, x.checker s = .ok c) ∧
      bad.checker s = .error f := by
  induction es with
  | nil => simp at h
  | cons x es ih =>
    cases hx : x.checker s with
    | error f => exact ⟨[], x, es, f, rfl, by simp, hx⟩
    | ok c =>
      -- this entry is not the one, so it goes before the first of the others
      have hrest : ∃ y ∈ es, ∃ f, y.checker s = .error f := by
        obtain ⟨y, hy, f, hf⟩ := h
        rcases List.mem_cons.mp hy with rfl | hy
        · cases hx.symm.trans hf
        · exact ⟨y, hy, f, hf⟩
      obtain ⟨pre, bad, post, f, rfl, hpre, hbad⟩ := ih hrest
      exact ⟨x :: pre, bad, post, f, rfl, List.forall_mem_cons.mpr ⟨⟨c, hx⟩, hpre⟩, hbad⟩

theorem exists_checkers {es : List Entry} (h : ∀ x ∈ es, ∃ c, x.checker s = .ok c) :
    ∃ cs, List.Forall₂ (fun x c => x.checker s = .ok c) es cs := by
  induction es with
  | nil => exact ⟨[], .nil⟩
  | cons x es ih =>
    obtain ⟨⟨c, hx⟩, hes⟩ := List.forall_mem_cons.mp h
    obtain ⟨cs, hcs⟩ := ih hes
    exact ⟨c :: cs, .cons hx hcs⟩

/-- Entries that make related checkers at two sites are built alike: they fail at the same entry, or
all succeed. -/
theorem build_rel {R : Checker → Checker → Prop} {t : Site} {es : List Entry}
    (h : ∀ x ∈ es, Answer.Rel R (x.checker s) (x.checker t)) :
    Answer.Rel (List.Forall₂ R) (build s es).2 (build t es).2 := by
  induction es with
  | nil => exact .ok .nil
  | cons x es ih =>
    obtain ⟨hx, hes⟩ := List.forall_mem_cons.mp h
    unfold Entry.checker at hx
    -- the first one to fail ends the building, at both sites alike
    simp only [build]
    generalize (x.builder s).2.bind (ofBuilt x.name s) = c,
      (x.builder t).2.bind (ofBuilt x.name t) = d at hx
    cases hx with
    | error f => exact .error _
    | ok hcd => exact (ih hes).map fun cs ds hs => .cons hcd hs

end Checker

/-- A diagnostic that stands at a site, for a keyword if one is named. -/
structure Diagnostic.StandsAt (d : Diagnostic) (s : Site) (keyword : Option String) : Prop where
  path : d.path = s.path
  schema : d.schema = some s.location
  keyword : d.keyword = keyword

theorem Site.standsAt_diagnostic (s : Site) (message : String) (keyword : Option String)
    (details : Members) (level : Severity) (domain : Domain) :
    (s.diagnostic message keyword details level domain).StandsAt s keyword :=
  ⟨rfl, rfl, rfl⟩

/-- A complaint that a node cannot be used, because of a keyword or, if none is named, of its
shape. -/
structure Diagnostic.Refuses (d : Diagnostic) (s : Site) (keyword : Option String) (f : Fault) :
    Prop extends d.Complains, d.StandsAt s keyword where
  errorClass : d.details.get? "error_class" = some (.str f.label)

theorem Checker.unusable_refuses (s : Site) (keyword : Option String) (f : Fault) :
    ∃ d n, unusable s keyword f = (.never (some d), n) ∧ d.Refuses s keyword f :=
  ⟨_, _, rfl, ⟨rfl, rfl⟩, s.standsAt_diagnostic _ _ _ _ _, rfl⟩

/-- The schemas that a node has for the child of a token, where they can be told. -/
def ChildSchema.found (kind : Kind) (node : Members) (token : Token) : List ChildSchema :=
  match ofKind kind node token with
  | .ok schemas => schemas
  | .error _ => []

namespace Job

variable {kind : Kind} {node : Members}

/-- The jobs stand in the order of the children, and for each child in the order of its schemas. -/
theorem forChildren_of_ok {cs : List (Token × Value)}
    (h : ∀ c ∈ cs, ∃ ts, ChildSchema.ofKind kind node c.1 = .ok ts) :
    forChildren kind node cs =
      .ok (cs.flatMap fun c => (ChildSchema.found kind node c.1).map fun t => ⟨c.1, c.2, t⟩) := by
  induction cs with
  | nil => rfl
  | cons c cs ih =>
    obtain ⟨⟨ts, hc⟩, hcs⟩ := List.forall_mem_cons.mp h
    have hfound : ChildSchema.found kind node c.1 = ts := by
      simp only [ChildSchema.found, hc]
    simp only [forChildren, hc, ih hcs, List.flatMap_cons, hfound]
    rfl

end Job

namespace Checker

variable {e : Setting} {J : Judge} {s : Site} {node : Members} {kind : Kind}

/-- What each child comes to under each schema for it. -/
def childOutcomes (J : Judge) (s : Site) (kind : Kind) (node : Members) : List Outcome :=
  s.value.children.flatMap fun c =>
    (ChildSchema.found kind node c.1).map fun t => (J (s.child t.schema c.2 c.1 t.steps)).outcome

/-- Values without parts have no children. -/
theorem children_of_scalar (hk : s.kind = .ok kind) (harray : kind ≠ .array)
    (hobject : kind ≠ .object) : s.value.children = [] := by
  have hof : Kind.of? s.value = some kind := Kind.classify_ok.mp hk
  cases hv : s.value with
  | arr xs =>
    rw [hv] at hof
    exact absurd (Option.some.inj hof).symm harray
  | obj ms =>
    rw [hv] at hof
    exact absurd (Option.some.inj hof).symm hobject
  | bytes os =>
    rw [hv] at hof
    cases hof
  | _ => rfl

/-- Whether everything below a site can be told and answers. -/
structure Descends (J : Judge) (s : Site) (kind : Kind) (node : Members) : Prop where
  schemas : ∀ c ∈ s.value.children, ∃ ts, ChildSchema.ofKind kind node c.1 = .ok ts
  answers : ∀ o ∈ childOutcomes J s kind node, ∃ b, o.verdict = .ok b

/-- The outcomes of the jobs of a site are those of its children. -/
theorem outcomes_of_jobs {jobs : List Job} (hs : s.schema = .obj node)
    (h : Job.ofSite kind s = .ok jobs) :
    (∀ c ∈ s.value.children, ∃ ts, ChildSchema.ofKind kind node c.1 = .ok ts) ∧
      jobs.map (fun j => (J (j.site s)).outcome) = childOutcomes J s kind node := by
  simp only [Job.ofSite, Site.node, hs] at h
  have hschemas : ∀ c ∈ s.value.children, ∃ ts, ChildSchema.ofKind kind node c.1 = .ok ts :=
    fun c hc => Job.ofKind_ok h hc
  refine ⟨hschemas, ?_⟩
  cases (Job.forChildren_of_ok hschemas).symm.trans h
  rw [List.map_flatMap]
  simp only [List.map_map]
  rfl

/-- Children that all answer come to what they come to in turn, also where each is judged on a
report of its own. -/
theorem descent_of_descends (hJ : J.Uniform) (hs : s.schema = .obj node)
    (hk : s.kind = .ok kind) (h : Descends J s kind node) :
    ∃ ns, descent e J kind s = (Outcome.all (childOutcomes J s kind node)).after ns := by
  by_cases hkind : kind = .array ∨ kind = .object
  · have hofSite : ∃ jobs, Job.ofSite kind s = .ok jobs := by
      simp only [Job.ofSite, Site.node, hs]
      exact ⟨_, Job.forChildren_of_ok h.schemas⟩
    obtain ⟨jobs, hjobs⟩ := hofSite
    have houtcomes := (outcomes_of_jobs (J := J) hs hjobs).2
    -- a child that answers comes to the same on a report of its own
    have hapart : jobs.map (fun j => (J (j.site s)).outcome.apart) =
        jobs.map fun j => (J (j.site s)).outcome := by
      apply List.map_congr_left
      intro j hj
      have hmem : (J (j.site s)).outcome ∈ childOutcomes J s kind node := by
        rw [← houtcomes]
        exact List.mem_map_of_mem hj
      obtain ⟨b, hb⟩ := h.answers _ hmem
      exact Outcome.apart_of_ok hb
    obtain ⟨ns, hrun | hrun⟩ := outcome_runChildren e hJ hjobs
    · exact ⟨ns, by rw [descent, if_pos hkind, hrun, houtcomes]⟩
    · exact ⟨ns, by rw [descent, if_pos hkind, hrun, hapart, houtcomes]⟩
  · push Not at hkind
    have hnone := children_of_scalar hk hkind.1 hkind.2
    refine ⟨[], ?_⟩
    rw [descent, if_neg (by simp [hkind]), childOutcomes, hnone]
    rfl

/-- A verdict on what is below a site is one on all of it. -/
theorem descends_of_descent (hJ : J.Uniform) (hs : s.schema = .obj node)
    (hk : s.kind = .ok kind) {b : Bool} (h : (descent e J kind s).verdict = .ok b) :
    Descends J s kind node := by
  by_cases hkind : kind = .array ∨ kind = .object
  · rw [descent, if_pos hkind] at h
    cases hjobs : Job.ofSite kind s with
    | error f =>
      have habort : (runChildren e J kind s) = Step.abort f := by
        unfold runChildren
        rw [hjobs]
      rw [habort, Step.outcome_abort] at h
      cases h
    | ok jobs =>
      obtain ⟨hschemas, houtcomes⟩ := outcomes_of_jobs (J := J) hs hjobs
      refine ⟨hschemas, ?_⟩
      rw [← houtcomes]
      obtain ⟨ns, hrun | hrun⟩ := outcome_runChildren e hJ hjobs
      · rw [hrun] at h
        exact (Outcome.verdict_all_ok h).1
      · rw [hrun] at h
        intro o ho
        obtain ⟨j, hj, rfl⟩ := List.mem_map.mp ho
        have hanswers := (Outcome.verdict_all_ok h).1 _ (List.mem_map_of_mem hj)
        rwa [Outcome.verdict_apart] at hanswers
  · push Not at hkind
    have hnone := children_of_scalar hk hkind.1 hkind.2
    refine ⟨?_, ?_⟩
    · simp [hnone]
    · simp [childOutcomes, hnone]

/-- A node with an entry that makes no checker. -/
theorem forSite_of_first {v : Vocabulary} (hs : s.schema = .obj node) (hne : node ≠ [])
    (hk : s.kind = .ok kind) {pre post : List Entry} {bad : Entry} {f : Fault}
    (hK : v.applicable (Members.keys node) kind = pre ++ bad :: post)
    (hpre : ∀ x ∈ pre, ∃ c, x.checker s = .ok c) (hbad : bad.checker s = .error f) :
    ∃ d closing, d.Refuses s (some bad.name) f ∧
      forSite v s =
        (dispatchNote s kind ((pre ++ bad :: post).map (·.name)) ::
          buildNotes s (pre ++ [bad]) ++ [closing], .ok (.never (some d))) := by
  obtain ⟨m, ms, rfl⟩ := List.exists_cons_of_ne_nil hne
  obtain ⟨d, n, hd, hrefuses⟩ := unusable_refuses s (some bad.name) f
  refine ⟨d, n, hrefuses, ?_⟩
  simp only [forSite, hs, hk, hK, build_of_first hpre hbad, hd]

/-- A node of which every entry makes a checker. -/
theorem forSite_of_checkers {v : Vocabulary} (hs : s.schema = .obj node) (hne : node ≠ [])
    (hk : s.kind = .ok kind) {cs : List Checker}
    (hcs : List.Forall₂ (fun x c => x.checker s = .ok c)
      (v.applicable (Members.keys node) kind) cs) :
    ∃ notes, forSite v s = (notes, .ok (wrap s kind (allOf cs))) := by
  obtain ⟨m, ms, rfl⟩ := List.exists_cons_of_ne_nil hne
  refine ⟨dispatchNote s kind ((v.applicable (Members.keys (m :: ms)) kind).map (·.name)) ::
    buildNotes s (v.applicable (Members.keys (m :: ms)) kind), ?_⟩
  simp only [forSite, hs, hk, build_of_forall hcs]

/-- The outcomes of the checkers of a node and of what is below it. -/
def partOutcomes (e : Setting) (fuel : Nat) (s : Site) (kind : Kind) (node : Members)
    (cs : List Checker) : List Outcome :=
  (cs.map fun c => (e.runChecker c fuel).outcome) ++ childOutcomes (e.judge fuel) s kind node

/-- Whether every checker of a node answers, and everything below it. -/
structure Answers (e : Setting) (fuel : Nat) (s : Site) (kind : Kind) (node : Members)
    (cs : List Checker) : Prop where
  members : ∀ c ∈ cs, ∃ b, (e.runChecker c fuel).outcome.verdict = .ok b
  below : Descends (e.judge fuel) s kind node

/-- Joined checkers above the children come to what all of these come to, if they answer. -/
theorem runChecker_of_answers {fuel : Nat} {cs : List Checker} (hs : s.schema = .obj node)
    (hk : s.kind = .ok kind) (h : Answers e fuel s kind node cs) :
    ∃ ns, ∀ j, e.runChecker (wrap s kind (allOf cs)) fuel j =
      (⟨j.report.logAll ((partOutcomes e fuel s kind node cs).flatMap (·.messages)),
        ns ++ j.notes⟩, .ok ((partOutcomes e fuel s kind node cs).all Outcome.holds)) := by
  have hJ := e.uniform_judge fuel
  obtain ⟨ns, hbelow⟩ := descent_of_descends (e := e) hJ hs hk h.below
  have hmembers : ∀ o ∈ cs.map fun c => (e.runChecker c fuel).outcome,
      ∃ b, o.verdict = .ok b := by
    intro o ho
    obtain ⟨c, hc, rfl⟩ := List.mem_map.mp ho
    exact h.members c hc
  obtain ⟨hmessages, hverdict⟩ := Outcome.all_append_of_answers hmembers h.below.answers
  -- the notes on the fan-out change neither messages nor verdict
  have hwhole : (e.runChecker (wrap s kind (allOf cs)) fuel).outcome =
      (Outcome.all (cs.map fun c => (e.runChecker c fuel).outcome)).andThen
        ((Outcome.all (childOutcomes (e.judge fuel) s kind node)).after ns) := by
    unfold Setting.runChecker
    rw [outcome_wrap e hJ, outcome_allOf e hJ, hbelow]
  refine ⟨(e.runChecker (wrap s kind (allOf cs)) fuel).outcome.notes, ?_⟩
  intro j
  have hrun : e.runChecker (wrap s kind (allOf cs)) fuel j =
      (e.runChecker (wrap s kind (allOf cs)) fuel).outcome.onto j := uniform_run e hJ _ j
  rw [hrun, Outcome.onto]
  congr 2
  · rw [hwhole, Outcome.messages_andThen_after, hmessages]
    rfl
  · rw [hwhole, Outcome.verdict_andThen_after, hverdict]
    rfl

/-- A verdict of joined checkers above the children is one of all of these. -/
theorem answers_of_runChecker {fuel : Nat} {cs : List Checker} (hs : s.schema = .obj node)
    (hk : s.kind = .ok kind) {j : Journal} {b : Bool}
    (h : (e.runChecker (wrap s kind (allOf cs)) fuel j).2 = .ok b) :
    Answers e fuel s kind node cs := by
  have hJ := e.uniform_judge fuel
  have hverdict : (run e (e.judge fuel) (wrap s kind (allOf cs))).outcome.verdict = .ok b := by
    rw [← h, Setting.runChecker, uniform_run e hJ _ j, Outcome.onto]
  rw [outcome_wrap e hJ, outcome_allOf e hJ] at hverdict
  obtain ⟨x, y, hx, hy, _⟩ := Outcome.verdict_andThen_ok.mp hverdict
  have hmembers := (Outcome.verdict_all_ok hx).1
  refine ⟨?_, descends_of_descent hJ hs hk hy⟩
  intro c hc
  exact hmembers _ (List.mem_map_of_mem (f := fun c => (run e (e.judge fuel) c).outcome) hc)

/-- Dispatch with any vocabulary. Either some selected entry makes no checker; then the first of
them is complained about, nothing behind it matters, and nothing else is said of the node. Or each
makes one; then a verdict on the node is one on every part of it, the verdicts are joined and the
messages strung together in order, and nothing is cut short by a part that says no. -/
theorem forSite_composes (e : Setting) (fuel : Nat) {s : Site} {node : Members} {kind : Kind}
    (hs : s.schema = .obj node) (hne : node ≠ []) (hk : s.kind = .ok kind) :
    ((∃ x ∈ e.vocabulary.applicable (Members.keys node) kind, ∃ f, x.checker s = .error f) →
      ∃ pre bad post f d closing,
        e.vocabulary.applicable (Members.keys node) kind = pre ++ bad :: post ∧
        (∀ x ∈ pre, ∃ c, x.checker s = .ok c) ∧ bad.checker s = .error f ∧
        d.Refuses s (some bad.name) f ∧
        (∀ later, build s (pre ++ bad :: later) =
          (buildNotes s (pre ++ [bad]), .error (bad.name, f))) ∧
        forSite e.vocabulary s =
          (dispatchNote s kind ((pre ++ bad :: post).map (·.name)) ::
            buildNotes s (pre ++ [bad]) ++ [closing], .ok (.never (some d))) ∧
        ∀ j, e.runChecker (.never (some d)) fuel j = (j.log d, .ok false)) ∧
    ((∀ x ∈ e.vocabulary.applicable (Members.keys node) kind, ∃ c, x.checker s = .ok c) →
      ∃ cs notes c,
        List.Forall₂ (fun x c => x.checker s = .ok c)
          (e.vocabulary.applicable (Members.keys node) kind) cs ∧
        forSite e.vocabulary s = (notes, .ok c) ∧
        (∀ j b, (e.runChecker c fuel j).2 = .ok b → Answers e fuel s kind node cs) ∧
        (Answers e fuel s kind node cs → ∃ ns, ∀ j, e.runChecker c fuel j =
          (⟨j.report.logAll ((partOutcomes e fuel s kind node cs).flatMap (·.messages)),
            ns ++ j.notes⟩,
            .ok ((partOutcomes e fuel s kind node cs).all Outcome.holds)))) := by
  constructor
  · intro h
    obtain ⟨pre, bad, post, f, hK, hpre, hbad⟩ := exists_first h
    obtain ⟨d, closing, hd, hsite⟩ := forSite_of_first hs hne hk hK hpre hbad
    exact ⟨pre, bad, post, f, d, closing, hK, hpre, hbad, hd,
      fun later => build_of_first hpre hbad, hsite, fun j => rfl⟩
  · intro h
    obtain ⟨cs, hcs⟩ := exists_checkers h
    obtain ⟨notes, hsite⟩ := forSite_of_checkers hs hne hk hcs
    refine ⟨cs, notes, _, hcs, hsite, ?_, ?_⟩
    · intro j b hb
      exact answers_of_runChecker hs hk hb
    · intro hanswers
      exact runChecker_of_answers hs hk hanswers

/-- A node of which the first of two entries makes nothing, and one with an entry that says no,
above an element that is judged too. -/
theorem forSite_composes_refusal :
    let denier : Builder := fun _ =>
      ([], .ok (.logic (.told fun t => ([t.diagnostic "no" (some "items") []], .ok (.bool false)))))
    let breaking : Entry := ⟨"breaks", [.array], fun _ => ([], .ok (.plain "int")), 0⟩
    let denying : Entry := ⟨"items", [.array], denier, 1⟩
    let v : Vocabulary := ⟨[breaking, denying]⟩
    let e : Setting := ⟨v, {}, {}, .report⟩
    let elements : Value := .obj [("breaks", .null)]
    let broken : Site :=
      ⟨.obj [("items", elements), ("breaks", .null)], .arr [.arr []], .root, {}, [], false⟩
    let sound : Site := ⟨.obj [("items", elements)], .arr [.arr []], .root, {}, [], false⟩
    (∃ notes d, Checker.forSite v broken = (notes, .ok (.never (some d))) ∧
      d.keyword = some "breaks") ∧
    ∃ notes c ns ms, Checker.forSite v sound = (notes, .ok c) ∧
      ms.map Diagnostic.keyword = [some "items", some "breaks"] ∧
      ∀ j, e.runChecker c 1 j = (⟨j.report.logAll ms, ns ++ j.notes⟩, .ok false) := by
  intro denier breaking denying v e elements broken sound
  refine ⟨?_, ?_⟩
  · have hentries : e.vocabulary.applicable (Members.keys [("items", elements), ("breaks", .null)])
        .array = [breaking, denying] := rfl
    have hbreaks : breaking ∈ e.vocabulary.applicable
        (Members.keys [("items", elements), ("breaks", .null)]) .array := by
      rw [hentries]
      exact List.mem_cons_self
    obtain ⟨pre, bad, post, f, d, closing, hK, hpre, hbad, hd, _, hsite, _⟩ :=
      (forSite_composes e 1 (s := broken) rfl (by simp)
        (show broken.kind = .ok .array from rfl)).1 ⟨breaking, hbreaks, _, rfl⟩
    refine ⟨_, d, hsite, hd.keyword.trans ?_⟩
    -- the first entry makes nothing, so nothing stands before the one complained about
    cases pre with
    | nil =>
      obtain ⟨rfl, _⟩ := List.cons.inj (hentries.symm.trans hK)
      rfl
    | cons x pre =>
      obtain ⟨rfl, _⟩ := List.cons.inj (hentries.symm.trans hK)
      obtain ⟨c, hc⟩ := hpre breaking List.mem_cons_self
      cases hc
  · have hentries : e.vocabulary.applicable (Members.keys [("items", elements)]) .array =
        [denying] := rfl
    have hmade : ∀ x ∈ e.vocabulary.applicable (Members.keys [("items", elements)]) .array,
        ∃ c, x.checker sound = .ok c := by
      rw [hentries]
      exact List.forall_mem_singleton.mpr ⟨_, rfl⟩
    obtain ⟨cs, notes, c, hcs, hsite, _, hrun⟩ :=
      (forSite_composes e 1 (s := sound) rfl (by simp)
        (show sound.kind = .ok .array from rfl)).2 hmade
    rw [hentries] at hcs
    obtain ⟨c', _, hc', hnil, rfl⟩ := List.forall₂_cons_left_iff.mp hcs
    cases hc'
    cases hnil
    have hanswers : Answers e 1 sound .array [("items", elements)]
        [.single "items" (.told fun t => ([t.diagnostic "no" (some "items") []], .ok (.bool false)))
          sound] := by
      refine ⟨List.forall_mem_singleton.mpr ⟨false, rfl⟩, ⟨?_, ?_⟩⟩
      · exact List.forall_mem_singleton.mpr ⟨_, rfl⟩
      · exact List.forall_mem_singleton.mpr ⟨false, rfl⟩
    obtain ⟨ns, hns⟩ := hrun hanswers
    exact ⟨notes, c, ns, _, hsite, rfl, hns⟩

end Checker

end Conform
