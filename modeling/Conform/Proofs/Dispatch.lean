import Conform.Proofs.Acceptance
import Conform.Proofs.Calls
import Conform.Proofs.Judging

/-!
Dispatch with the known keywords. A node that is no object, or of which some applicable keyword
cannot be built, costs one error. Any other node comes to what its applicable keywords come to, in
their order, and then to what lies below the value.
-/
namespace Conform

namespace Outcome

/-- The outcome of a step that does nothing but say yes. -/
def pass : Outcome := ⟨[], [], .ok true⟩

@[simp]
theorem andThen_pass (o : Outcome) : o.andThen pass = o := by
  obtain ⟨notes, messages, f | b⟩ := o
  · simp [andThen]
  · simp [pass, andThen, Except.map]

end Outcome

namespace Keyword

theorem mem_all (k : Keyword) : k ∈ all := by
  cases k <;> decide

/-- The keywords of a node that apply to a kind, in the order in which they are judged. -/
def selected (node : Members) (kind : Kind) : List Keyword :=
  all.filter fun k => (Members.keys node).contains k.name && k.kinds.contains kind

theorem contains_keys {node : Members} {name : String} :
    (Members.keys node).contains name ↔ ∃ w, node.get? name = some w := by
  rw [← Option.isSome_iff_exists]
  have h : (node.get? name).isSome ↔ ∃ m ∈ node, name == m.1 := List.lookup_isSome_iff
  rw [h, Members.keys, List.contains_iff_mem, List.mem_map]
  simp only [beq_iff_eq, eq_comm (a := name)]

theorem mem_selected {node : Members} {kind : Kind} {k : Keyword} :
    k ∈ selected node kind ↔ (∃ w, node.get? k.name = some w) ∧ kind ∈ k.kinds := by
  rw [selected, List.mem_filter, Bool.and_eq_true, contains_keys, List.contains_iff_mem]
  simp only [k.mem_all, true_and]

/-- A node whose keywords can be built lays out its items as a schema or a list of them. -/
theorem isSchemaList_items {node : Members}
    (h : ∀ k ∈ selected node .array, ∃ b, k.build node = .ok b) {w : Value}
    (hw : node.get? "items" = some w) : w.IsSchemaList := by
  have hsel : items ∈ selected node .array := mem_selected.mpr ⟨⟨w, hw⟩, by decide⟩
  exact (build_isOk (k := items) hw).mp (h items hsel)

def entry (x : Keyword × Nat) : Entry := ⟨x.1.name, x.1.kinds, x.1.builder, x.2⟩

theorem known_entries : Vocabulary.known.entries = all.zipIdx.map entry := rfl

/-- The entries of the known vocabulary that a node selects are those of its selected keywords. -/
theorem applicable_known (node : Members) (kind : Kind) :
    ∃ xs : List (Keyword × Nat), xs.map Prod.fst = selected node kind ∧
      Vocabulary.known.applicable (Members.keys node) kind = xs.map entry := by
  let wanted (k : Keyword) : Bool :=
    (Members.keys node).contains k.name && k.kinds.contains kind
  -- filtering the numbered keywords numbers the filtered ones
  refine ⟨all.zipIdx.filter fun x => wanted x.1, ?_, ?_⟩
  · have hfst : all.zipIdx.map Prod.fst = all := List.zipIdx_map_fst 0 all
    have hfilter : (all.zipIdx.map Prod.fst).filter wanted =
        (all.zipIdx.filter fun x => wanted x.1).map Prod.fst := List.filter_map
    rw [← hfilter, hfst]
    rfl
  · rw [Vocabulary.applicable, known_entries, List.filter_map]
    rfl

/-- The checker of a keyword that can be built. -/
def checker (node : Members) (s : Site) (k : Keyword) : Checker :=
  match k.build node with
  | .ok (.logic l) => .single k.name l s
  | _ => .always

theorem ofBuilt_of_build {k : Keyword} {node : Members} {b : Built} (h : k.build node = .ok b)
    (s : Site) : Checker.ofBuilt k.name s b = .ok (k.checker node s) := by
  cases makes_of_build h <;> simp only [checker, h, asTest, Checker.ofBuilt]

theorem builder_eq {k : Keyword} {node : Members} {s : Site} (hs : s.schema = .obj node) :
    (k.builder s).2 = k.build node := by
  have hnode : s.node = .ok node := by
    unfold Site.node
    rw [hs]
  unfold builder
  rw [hnode]
  cases h : k.build node with
  | ok b => simp only [Except.bind, h]
  | error f => simp only [Except.bind, h]

/-- Entries whose keywords all can be built give the checkers of these. -/
theorem build_ok {node : Members} {s : Site} (hs : s.schema = .obj node)
    {xs : List (Keyword × Nat)} (h : ∀ k ∈ xs.map Prod.fst, ∃ b, k.build node = .ok b) :
    (Checker.build s (xs.map entry)).2 = .ok ((xs.map Prod.fst).map (checker node s)) := by
  induction xs with
  | nil => rfl
  | cons x xs ih =>
    obtain ⟨⟨b, hb⟩, hxs⟩ := List.forall_mem_cons.mp h
    have hx : (x.1.builder s).2 = .ok b := (builder_eq hs).trans hb
    have hbound : (x.1.builder s).2.bind (Checker.ofBuilt x.1.name s) =
        .ok (x.1.checker node s) := by
      rw [hx]
      exact ofBuilt_of_build hb s
    simp only [List.map_cons, Checker.build, entry, hbound, ih hxs]
    rfl

/-- Whether a keyword of a node cannot be built. -/
def refuses (node : Members) (k : Keyword) : Bool := !(k.build node).isOk

theorem refuses_eq_false {node : Members} {k : Keyword} :
    k.refuses node = false ↔ ∃ b, k.build node = .ok b := by
  unfold refuses
  cases k.build node <;> simp [Except.isOk, Except.toBool]

theorem refuses_iff {node : Members} {k : Keyword} :
    k.refuses node = true ↔ ∀ b, k.build node ≠ .ok b := by
  rw [← Bool.not_eq_false, refuses_eq_false, not_exists]

/-- Entries fail for the first keyword that cannot be built. -/
theorem build_first {node : Members} {s : Site} (hs : s.schema = .obj node)
    {xs : List (Keyword × Nat)} {k : Keyword}
    (h : (xs.map Prod.fst).find? (refuses node) = some k) :
    ∃ f, (Checker.build s (xs.map entry)).2 = .error (k.name, f) := by
  induction xs with
  | nil => cases h
  | cons x xs ih =>
    simp only [List.map_cons, Checker.build, entry]
    rw [builder_eq hs]
    cases hx : x.1.build node with
    | error f =>
      have hrefuses : x.1.refuses node = true := refuses_iff.mpr (by simp [hx])
      rw [List.map_cons, List.find?_cons_of_pos hrefuses] at h
      obtain rfl := Option.some.inj h
      exact ⟨f, rfl⟩
    | ok b =>
      -- this one is built, so building goes on to the first of the others
      have hbuilt : ¬ x.1.refuses node = true := by
        rw [Bool.not_eq_true, refuses_eq_false]
        exact ⟨b, hx⟩
      rw [List.map_cons, List.find?_cons_of_neg hbuilt] at h
      obtain ⟨f, hf⟩ := ih h
      have hbound : (Except.ok b).bind (Checker.ofBuilt x.1.name s) = .ok (x.1.checker node s) :=
        ofBuilt_of_build hx s
      exact ⟨f, by simp only [hbound, hf]; rfl⟩

/-- Some selected keyword cannot be built, so there is a first one. -/
theorem exists_refused {node : Members} {ks : List Keyword} {k : Keyword} (hk : k ∈ ks)
    (h : ∀ b, k.build node ≠ .ok b) : ∃ k', ks.find? (refuses node) = some k' := by
  rw [← Option.isSome_iff_exists, List.find?_isSome]
  exact ⟨k, hk, refuses_iff.mpr h⟩

/-- What a keyword that can be built comes to at a site. -/
def outcome (e : Setting) (J : Judge) (s : Site) (node : Members) (k : Keyword) : Outcome :=
  match k.build node with
  | .ok (.logic l) => (l.run e J k.name s).outcome
  | _ => .pass

end Keyword

namespace Checker

variable {J : Judge}

theorem outcome_always (e : Setting) : (run e J .always).outcome = .pass :=
  Step.outcome_answer true

theorem outcome_checker (e : Setting) (node : Members) (s : Site) (k : Keyword) :
    (run e J (k.checker node s)).outcome = k.outcome e J s node := by
  unfold Keyword.checker Keyword.outcome
  split
  · rfl
  · exact outcome_always e

theorem outcome_runAll (e : Setting) (hJ : J.Uniform) (cs : List Checker) :
    (runAll e J cs).outcome = Outcome.all (cs.map fun c => (run e J c).outcome) := by
  induction cs with
  | nil => exact outcome_always (J := J) e
  | cons c cs ih =>
    rw [runAll, Step.outcome_both (uniform_run e hJ c) (uniform_runAll e hJ cs), ih]
    rfl

/-- Joined checkers come to what they come to in turn, however many they are. -/
theorem outcome_allOf (e : Setting) (hJ : J.Uniform) (cs : List Checker) :
    (run e J (allOf cs)).outcome = Outcome.all (cs.map fun c => (run e J c).outcome) := by
  match cs with
  | [] => exact outcome_always e
  | [c] => exact (Outcome.andThen_pass _).symm
  | c :: d :: cs => exact outcome_runAll e hJ (c :: d :: cs)

/-- The children come to what they come to in turn, or each apart. -/
theorem outcome_runChildren (e : Setting) (hJ : J.Uniform) {kind : Kind} {s : Site}
    {jobs : List Job} (hjobs : Job.ofSite kind s = .ok jobs) :
    ∃ ns, (runChildren e J kind s).outcome =
        (Outcome.all (jobs.map fun j => (J (j.site s)).outcome)).after ns ∨
      (runChildren e J kind s).outcome =
        (Outcome.all (jobs.map fun j => (J (j.site s)).outcome.apart)).after ns := by
  have hsteps := hJ.map jobs fun j => j.site s
  have hapart := Step.uniform_map_apart hsteps
  unfold runChildren
  rw [hjobs]
  dsimp only
  split
  · refine ⟨[fanOutNote s jobs.length], .inr ?_⟩
    rw [Step.outcome_eq (Step.note_onto (Step.uniform_all hapart) _),
      Step.outcome_all_apart hsteps, List.map_map, List.map_map]
    rfl
  · refine ⟨[], .inl ?_⟩
    rw [Step.outcome_all hsteps, List.map_map]
    simp only [Outcome.after, List.reverse_nil, List.append_nil]
    rfl

/-- What the children of a value of a kind come to. -/
def descent (e : Setting) (J : Judge) (kind : Kind) (s : Site) : Outcome :=
  if kind = .array ∨ kind = .object then (runChildren e J kind s).outcome else .pass

theorem outcome_wrap (e : Setting) (hJ : J.Uniform) (s : Site) (kind : Kind) (c : Checker) :
    (run e J (wrap s kind c)).outcome = (run e J c).outcome.andThen (descent e J kind s) := by
  have hboth (kind : Kind) : (run e J (.container kind c s)).outcome =
      (run e J c).outcome.andThen (runChildren e J kind s).outcome :=
    Step.outcome_both (uniform_run e hJ c) (uniform_runChildren e hJ kind s)
  cases kind with
  | array => exact hboth .array
  | object => exact hboth .object
  | _ => exact (Outcome.andThen_pass _).symm

/-- Where no child has a schema, there are no jobs. -/
theorem forChildren_none {kind : Kind} {node : Members} {cs : List (Token × Value)}
    (h : ∀ c ∈ cs, ChildSchema.ofKind kind node c.1 = .ok []) :
    Job.forChildren kind node cs = .ok [] := by
  induction cs with
  | nil => rfl
  | cons c cs ih =>
    obtain ⟨hc, hcs⟩ := List.forall_mem_cons.mp h
    rw [Job.forChildren, hc, ih hcs]
    rfl

/-- A node without keywords has nothing to say of children. -/
theorem ofKind_nil (kind : Kind) (token : Token) : ChildSchema.ofKind kind [] token = .ok [] := by
  cases kind <;> rfl

theorem forChildren_nil (kind : Kind) (cs : List (Token × Value)) :
    Job.forChildren kind [] cs = .ok [] :=
  forChildren_none fun c _ => ofKind_nil kind c.1

/-- Where no child has a schema, there is nothing to judge below. -/
theorem descent_of_none (e : Setting) {s : Site} {node : Members} {kind : Kind}
    (hs : s.schema = .obj node)
    (h : ∀ c ∈ s.value.children, ChildSchema.ofKind kind node c.1 = .ok []) :
    descent e J kind s = .pass := by
  have hjobs : Job.ofSite kind s = .ok [] := by
    unfold Job.ofSite Site.node
    rw [hs]
    exact forChildren_none h
  unfold descent runChildren
  rw [hjobs]
  simp only [List.map_nil, List.isEmpty_nil, Bool.not_true, Bool.and_false, Bool.false_and,
    Bool.false_eq_true, ↓reduceIte, Step.all, Step.outcome_answer, ite_self, Outcome.pass]

theorem descent_nil (e : Setting) {s : Site} (hs : s.schema = .obj []) (kind : Kind) :
    descent e J kind s = .pass :=
  descent_of_none e hs fun c _ => ofKind_nil kind c.1

end Checker

/-- A complaint about a node that cannot be used. -/
structure Diagnostic.Complains (d : Diagnostic) : Prop where
  level : d.level = .error
  domain : d.domain = .construction

theorem Checker.unusable_eq (s : Site) (keyword : Option String) (f : Fault) :
    ∃ d, (unusable s keyword f).1 = .never (some d) ∧ d.Complains :=
  ⟨_, rfl, rfl, rfl⟩

namespace Setting

variable {e : Setting} {J : Judge} {s : Site} {node : Members} {kind : Kind}

theorem outcome_round {notes : List Note} {c : Checker} (hJ : J.Uniform)
    (h : Checker.forSite e.vocabulary s = (notes, .ok c)) :
    (e.round J s).outcome = (c.run e J).outcome.after notes := by
  apply Step.outcome_eq
  intro j
  simp only [round, h]
  exact Step.note_onto (c.uniform_run e hJ) notes j

theorem outcome_round_error {notes : List Note} {f : Fault}
    (h : Checker.forSite e.vocabulary s = (notes, .error f)) :
    (e.round J s).outcome = ⟨notes.reverse, [], .error f⟩ := by
  apply Step.outcome_eq
  intro j
  simp only [round, h]
  rfl

theorem outcome_round_unusable (hJ : J.Uniform) {notes : List Note} {keyword : Option String}
    {f : Fault}
    (h : Checker.forSite e.vocabulary s = (notes, .ok (Checker.unusable s keyword f).1)) :
    ∃ d : Diagnostic, d.Complains ∧
      (e.round J s).outcome = ⟨notes.reverse, [d], .ok false⟩ := by
  obtain ⟨d, hd, hc⟩ := Checker.unusable_eq s keyword f
  refine ⟨d, hc, ?_⟩
  rw [outcome_round hJ h, hd, Checker.run, Step.outcome_fail]
  simp [Outcome.after]

theorem forSite_shape (h : ¬ s.schema.IsSchema) : ∃ notes, Checker.forSite e.vocabulary s =
    (notes, .ok (Checker.unusable s none (.schemaShape none s.schema.typeName)).1) := by
  unfold Checker.forSite
  split
  · rename_i hs
    exact absurd ⟨_, hs⟩ h
  · rename_i hs
    exact absurd ⟨_, hs⟩ h
  · exact ⟨_, rfl⟩

theorem round_shape (hJ : J.Uniform) (h : ¬ s.schema.IsSchema) :
    ∃ notes, ∃ d : Diagnostic, d.Complains ∧
      (e.round J s).outcome = ⟨notes, [d], .ok false⟩ := by
  obtain ⟨notes, hn⟩ := forSite_shape (e := e) h
  exact ⟨notes.reverse, outcome_round_unusable hJ hn⟩

theorem round_nil (hJ : J.Uniform) (hs : s.schema = .obj []) :
    (e.round J s).outcome = .pass := by
  have h : Checker.forSite e.vocabulary s = ([], .ok .always) := by
    simp only [Checker.forSite, hs]
  rw [outcome_round hJ h, Checker.outcome_always]
  rfl

theorem round_kind {f : Fault} (hs : s.schema = .obj node) (hne : node ≠ [])
    (hk : s.kind = .error f) : (e.round J s).outcome = ⟨[], [], .error f⟩ := by
  have h : Checker.forSite e.vocabulary s = ([], .error f) := by
    cases node with
    | nil => exact absurd rfl hne
    | cons m ms => simp only [Checker.forSite, hs, hk]
  exact outcome_round_error h

/-- The checker of a node depends on whether its applicable keywords can be built. -/
theorem forSite_known (hv : e.vocabulary = .known) (hs : s.schema = .obj node)
    (hne : node ≠ []) (hk : s.kind = .ok kind) :
    ((∀ k ∈ Keyword.selected node kind, ∃ b, k.build node = .ok b) → ∃ notes,
      Checker.forSite e.vocabulary s = (notes, .ok (Checker.wrap s kind
        (Checker.allOf ((Keyword.selected node kind).map (Keyword.checker node s)))))) ∧
    (∀ k, (Keyword.selected node kind).find? (Keyword.refuses node) = some k → ∃ notes f,
      Checker.forSite e.vocabulary s = (notes, .ok (Checker.unusable s (some k.name) f).1)) := by
  obtain ⟨xs, hxs, happ⟩ := Keyword.applicable_known node kind
  obtain ⟨m, ms, rfl⟩ := List.exists_cons_of_ne_nil hne
  constructor
  · intro h
    rw [← hxs] at h ⊢
    have hbuild := Keyword.build_ok hs h
    simp only [Checker.forSite, hs, hk, hv, happ]
    rcases hb : Checker.build s (xs.map Keyword.entry) with ⟨notes, r⟩
    rw [hb] at hbuild
    cases hbuild
    exact ⟨_, rfl⟩
  · intro k h
    rw [← hxs] at h
    obtain ⟨f, hbuild⟩ := Keyword.build_first hs h
    simp only [Checker.forSite, hs, hk, hv, happ]
    rcases hb : Checker.build s (xs.map Keyword.entry) with ⟨notes, r⟩
    rw [hb] at hbuild
    cases hbuild
    exact ⟨_, f, rfl⟩

/-- What the known keywords make of a site: nothing to ask, a complaint, or the checkers of the
keywords of the node, above those of the children. -/
theorem forSite_known_cases (hv : e.vocabulary = .known) {notes : List Note} {c : Checker}
    (h : Checker.forSite e.vocabulary s = (notes, .ok c)) :
    c = .always ∨ (∃ d, c = .never (some d)) ∨
      ∃ node kind, s.schema = .obj node ∧ s.kind = .ok kind ∧
        (∀ k ∈ Keyword.selected node kind, ∃ b, k.build node = .ok b) ∧
        c = Checker.wrap s kind
          (Checker.allOf ((Keyword.selected node kind).map (Keyword.checker node s))) := by
  by_cases hnode : ∃ node, s.schema = .obj node ∧ node ≠ []
  · obtain ⟨node, hs, hne⟩ := hnode
    cases hk : s.kind with
    | error f =>
      obtain ⟨m, ms, rfl⟩ := List.exists_cons_of_ne_nil hne
      simp [Checker.forSite, hs, hk] at h
    | ok kind =>
      by_cases hbuilt : ∀ k ∈ Keyword.selected node kind, ∃ b, k.build node = .ok b
      · obtain ⟨_, hsite⟩ := (forSite_known hv hs hne hk).1 hbuilt
        rw [hsite] at h
        obtain rfl := Except.ok.inj (Prod.mk.inj h).2
        exact .inr (.inr ⟨node, kind, hs, rfl, hbuilt, rfl⟩)
      · push Not at hbuilt
        obtain ⟨k, hsel, hfail⟩ := hbuilt
        obtain ⟨k, hfirst⟩ := Keyword.exists_refused hsel hfail
        obtain ⟨_, f, hsite⟩ := (forSite_known hv hs hne hk).2 k hfirst
        rw [hsite] at h
        obtain rfl := Except.ok.inj (Prod.mk.inj h).2
        exact .inr (.inl ⟨_, rfl⟩)
  · -- without keywords to build there is nothing to ask, or no node
    unfold Checker.forSite at h
    split at h
    · exact .inl (Except.ok.inj (Prod.mk.inj h).2).symm
    · rename_i node hne hs
      exact absurd ⟨node, hs, hne⟩ hnode
    · exact .inr (.inl ⟨_, (Except.ok.inj (Prod.mk.inj h).2).symm⟩)

theorem round_unbuilt (hv : e.vocabulary = .known) (hJ : J.Uniform) (hs : s.schema = .obj node)
    (hk : s.kind = .ok kind) {k : Keyword} (hsel : k ∈ Keyword.selected node kind)
    (h : ∀ b, k.build node ≠ .ok b) :
    ∃ notes, ∃ d : Diagnostic, d.Complains ∧
      (e.round J s).outcome = ⟨notes, [d], .ok false⟩ := by
  have hne : node ≠ [] := by
    intro h
    subst h
    obtain ⟨⟨w, hw⟩, _⟩ := Keyword.mem_selected.mp hsel
    cases hw
  obtain ⟨k, hfirst⟩ := Keyword.exists_refused hsel h
  obtain ⟨notes, f, hn⟩ := (forSite_known hv hs hne hk).2 k hfirst
  exact ⟨notes.reverse, outcome_round_unusable hJ hn⟩

/-- A node that can be used comes to what its keywords come to, and then its children. -/
theorem round_built (hv : e.vocabulary = .known) (hJ : J.Uniform) (hs : s.schema = .obj node)
    (hk : s.kind = .ok kind) (h : ∀ k ∈ Keyword.selected node kind, ∃ b, k.build node = .ok b) :
    ∃ notes, (e.round J s).outcome =
      ((Outcome.all ((Keyword.selected node kind).map (Keyword.outcome e J s node))).andThen
        (Checker.descent e J kind s)).after notes := by
  -- an empty node is dispatched apart, and comes to the same
  by_cases hne : node = []
  · subst hne
    refine ⟨[], ?_⟩
    have hsel : Keyword.selected [] kind = [] := by
      apply List.eq_nil_iff_forall_not_mem.mpr
      intro k hk
      obtain ⟨⟨w, hw⟩, _⟩ := Keyword.mem_selected.mp hk
      cases hw
    rw [round_nil hJ hs, hsel, Checker.descent_nil e hs, Outcome.andThen_pass]
    rfl
  · obtain ⟨notes, hn⟩ := (forSite_known hv hs hne hk).1 h
    refine ⟨notes, ?_⟩
    have hsteps : (Keyword.selected node kind).map
        (fun k => (Checker.run e J (k.checker node s)).outcome) =
        (Keyword.selected node kind).map (Keyword.outcome e J s node) :=
      List.map_congr_left fun k _ => Checker.outcome_checker e node s k
    rw [outcome_round hJ hn, Checker.outcome_wrap e hJ, Checker.outcome_allOf e hJ, List.map_map]
    exact congrArg (fun os => ((Outcome.all os).andThen _).after notes) hsteps

/-- Everything that a round with the known keywords can come to at a site. -/
inductive Round (e : Setting) (J : Judge) (s : Site) : Outcome → Prop
  | shape {notes : List Note} {d : Diagnostic} (hshape : ¬ s.schema.IsSchema)
      (hd : d.Complains) : Round e J s ⟨notes, [d], .ok false⟩
  | nil (hs : s.schema = .obj []) : Round e J s .pass
  | foreign {node : Members} {f : Fault} (hs : s.schema = .obj node) (hne : node ≠ [])
      (hk : s.kind = .error f) : Round e J s ⟨[], [], .error f⟩
  | unbuilt {node : Members} {kind : Kind} {k : Keyword} {notes : List Note} {d : Diagnostic}
      (hs : s.schema = .obj node) (hk : s.kind = .ok kind)
      (hsel : k ∈ Keyword.selected node kind) (hfail : ∀ b, k.build node ≠ .ok b)
      (hd : d.Complains) : Round e J s ⟨notes, [d], .ok false⟩
  | built {node : Members} {kind : Kind} {notes : List Note} (hs : s.schema = .obj node)
      (hk : s.kind = .ok kind)
      (hbuilt : ∀ k ∈ Keyword.selected node kind, ∃ b, k.build node = .ok b) :
      Round e J s (((Outcome.all ((Keyword.selected node kind).map
        (Keyword.outcome e J s node))).andThen (Checker.descent e J kind s)).after notes)

theorem round_cases (hv : e.vocabulary = .known) (hJ : J.Uniform) (s : Site) :
    Round e J s (e.round J s).outcome := by
  by_cases hshape : s.schema.IsSchema
  · obtain ⟨node, hs⟩ := hshape
    by_cases hne : node = []
    · subst hne
      rw [round_nil hJ hs]
      exact .nil hs
    · cases hk : s.kind with
      | error f =>
        rw [round_kind hs hne hk]
        exact .foreign hs hne hk
      | ok kind =>
        by_cases hbuilt : ∀ k ∈ Keyword.selected node kind, ∃ b, k.build node = .ok b
        · obtain ⟨notes, hround⟩ := round_built hv hJ hs hk hbuilt
          rw [hround]
          exact .built hs hk hbuilt
        · push Not at hbuilt
          obtain ⟨k, hsel, hfail⟩ := hbuilt
          obtain ⟨notes, d, hd, hround⟩ := round_unbuilt hv hJ hs hk hsel hfail
          rw [hround]
          exact .unbuilt hs hk hsel hfail hd
  · obtain ⟨notes, d, hd, hround⟩ := round_shape hJ hshape
    rw [hround]
    exact .shape hshape hd

end Setting

end Conform
