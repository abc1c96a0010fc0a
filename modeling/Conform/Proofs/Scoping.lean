import Conform.Proofs.Composition
import Conform.Proofs.Quiet
import Conform.Proofs.Termination

/-!
Type scoping. A member whose keyword does not apply to the type of a value has no part in judging
the value: no keyword that applies reads it, nor does the choice of the schemas for the children,
and a node left with such members only comes to what the empty node comes to.
-/
namespace Conform

namespace Members

/-- The members of other names. -/
def without (ms : Members) (name : String) : Members := ms.filter (·.1 != name)

theorem get?_without_of_ne (ms : Members) {name other : String} (h : other ≠ name) :
    (without ms name).get? other = ms.get? other := by
  induction ms with
  | nil => rfl
  | cons m ms ih =>
    by_cases hm : m.1 = name
    · have hdropped : without (m :: ms) name = without ms name := by simp [without, hm]
      have hother : other ≠ m.1 := fun he => h (he.trans hm)
      rw [hdropped, ih, get?_cons, if_neg hother]
    · have hstays : without (m :: ms) name = m :: without ms name := by simp [without, hm]
      rw [hstays, get?_cons, get?_cons, ih]

/-- Whether two nodes agree on every member that counts for values of a kind: one that is no
keyword, or a keyword that applies to the kind. -/
def Alike (kind : Kind) (a b : Members) : Prop :=
  ∀ name, (∀ k : Keyword, k.name = name → kind ∈ k.kinds) → a.get? name = b.get? name

/-- Nodes that differ only in a keyword that does not apply. -/
theorem alike_of_ne {kind : Kind} {a b : Members} {k : Keyword} (hk : kind ∉ k.kinds)
    (h : ∀ name, name ≠ k.name → a.get? name = b.get? name) : Alike kind a b := by
  intro name hname
  apply h
  intro he
  exact hk (hname k he.symm)

end Members

namespace Keyword

/-- The members of a node that the builder of a keyword reads. -/
def reads : Keyword → List String
  | .additionalItems => ["additionalItems", "items"]
  | .additionalProperties => ["additionalProperties", "properties", "patternProperties"]
  | .maximum => ["maximum", "exclusiveMaximum"]
  | .minimum => ["minimum", "exclusiveMinimum"]
  | k => [k.name]

/-- What is built depends on nothing else. -/
theorem build_congr {k : Keyword} {a b : Members}
    (h : ∀ name ∈ k.reads, a.get? name = b.get? name) : k.build a = k.build b := by
  cases k <;>
    simp only [reads, name, List.forall_mem_cons, List.not_mem_nil, false_implies,
      implies_true, and_true] at h <;>
    simp only [build, additionalItemsBuilder, additionalPropertiesBuilder, dependenciesBuilder,
      typesBuilder, divisibleByBuilder, enumBuilder, extendingBuilder, formatBuilder,
      itemsBuilder, boundBuilder, itemCountBuilder, textLengthBuilder, patternBuilder,
      patternPropertiesBuilder, propertiesBuilder, uniqueItemsBuilder, referenceBuilder, own,
      ownOr, h]

/-- A keyword that is read applies wherever the one that reads it does. -/
theorem kinds_subset_of_reads :
    ∀ k ∈ all, ∀ name ∈ k.reads, ∀ l ∈ all, l.name = name → ∀ kind ∈ k.kinds, kind ∈ l.kinds := by
  decide

theorem get?_reads {kind : Kind} {a b : Members} (h : Members.Alike kind a b) {k : Keyword}
    (hk : kind ∈ k.kinds) : ∀ name ∈ k.reads, a.get? name = b.get? name := by
  intro name hname
  apply h
  intro l hl
  exact kinds_subset_of_reads k k.mem_all name hname l l.mem_all hl kind hk

/-- A keyword that applies is built alike. -/
theorem build_alike {kind : Kind} {a b : Members} (h : Members.Alike kind a b) {k : Keyword}
    (hk : kind ∈ k.kinds) : k.build a = k.build b :=
  build_congr (get?_reads h hk)

theorem name_mem_reads (k : Keyword) : k.name ∈ k.reads := by
  cases k <;> decide

end Keyword

namespace ChildSchema

/-- The members of a node that the schemas for the children are taken from. -/
def reads : Kind → List String
  | .array => ["items", "additionalItems"]
  | .object => ["properties", "patternProperties", "additionalProperties"]
  | _ => []

theorem ofKind_congr {kind : Kind} {a b : Members}
    (h : ∀ name ∈ reads kind, a.get? name = b.get? name) (token : Token) :
    ofKind kind a token = ofKind kind b token := by
  cases kind with
  | array =>
    simp only [reads, List.forall_mem_cons, List.not_mem_nil, false_implies, implies_true,
      and_true] at h
    simp only [ofKind, forElement, ofMember, h]
  | object =>
    simp only [reads, List.forall_mem_cons, List.not_mem_nil, false_implies, implies_true,
      and_true] at h
    simp only [ofKind, forMember, patterned, declared, ofMember, h]
  | _ => rfl

theorem kinds_of_reads : ∀ kind ∈ Kind.all, ∀ name ∈ reads kind,
    ∀ l ∈ Keyword.all, l.name = name → kind ∈ l.kinds := by
  decide

/-- The schemas for a child are chosen alike. -/
theorem ofKind_alike {kind : Kind} {a b : Members} (h : Members.Alike kind a b) (token : Token) :
    ofKind kind a token = ofKind kind b token := by
  apply ofKind_congr
  intro name hname
  apply h
  intro l hl
  have hkind : kind ∈ Kind.all := by cases kind <;> decide
  exact kinds_of_reads kind hkind name hname l l.mem_all hl

end ChildSchema

theorem Vocabulary.applicable_alike {kind : Kind} {a b : Members} (h : Members.Alike kind a b) :
    known.applicable (Members.keys a) kind = known.applicable (Members.keys b) kind := by
  apply List.filter_congr
  intro x hx
  rw [Keyword.known_entries] at hx
  obtain ⟨⟨k, i⟩, -, rfl⟩ := List.mem_map.mp hx
  -- an entry that applies is looked for in both nodes under a name that they agree on
  by_cases hk : kind ∈ k.kinds
  · have hget := Keyword.get?_reads h hk k.name k.name_mem_reads
    have hkeys : (Members.keys a).contains k.name = (Members.keys b).contains k.name := by
      rw [Bool.eq_iff_iff, Keyword.contains_keys, Keyword.contains_keys, hget]
    simp only [Keyword.entry, hkeys]
  · have hout : k.kinds.contains kind = false := by simpa using hk
    simp only [Keyword.entry, hout, Bool.and_false]

/-- The same site with another schema node. -/
def Site.with (s : Site) (node : Members) : Site := { s with schema := .obj node }

/-- What a known keyword asks does not look at the node any more. -/
theorem Logic.run_with {k : Keyword} {node : Members} {l : Logic}
    (hl : k.build node = .ok (.logic l)) (e : Setting) (J : Judge) (keyword : String) (s : Site)
    (a b : Members) : l.run e J keyword (s.with a) = l.run e J keyword (s.with b) := by
  cases Keyword.makes_of_build hl with
  | test t => cases t <;> rfl
  | _ => rfl

namespace Checker

/-- Two checkers that do the same, whatever judges the sites that come up on the way. -/
def Same (c c' : Checker) : Prop := ∀ e J, c.run e J = c'.run e J

theorem runAll_same {cs cs' : List Checker} (h : List.Forall₂ Same cs cs') (e : Setting)
    (J : Judge) : runAll e J cs = runAll e J cs' := by
  induction h with
  | nil => rfl
  | cons hc _ ih => simp only [runAll, hc e J, ih]

theorem allOf_same {cs cs' : List Checker} (h : List.Forall₂ Same cs cs') :
    Same (allOf cs) (allOf cs') := by
  intro e J
  match h with
  | .nil => rfl
  | .cons hc .nil => exact hc e J
  | .cons hc (.cons hd hcs) => exact runAll_same (.cons hc (.cons hd hcs)) e J

variable {kind : Kind} {a b : Members} {s : Site}

theorem jobs_alike (h : Members.Alike kind a b) (cs : List (Token × Value)) :
    Job.forChildren kind a cs = Job.forChildren kind b cs := by
  induction cs with
  | nil => rfl
  | cons c cs ih => simp only [Job.forChildren, ChildSchema.ofKind_alike h, ih]

theorem runChildren_alike (h : Members.Alike kind a b) (e : Setting) (J : Judge) :
    runChildren e J kind (s.with a) = runChildren e J kind (s.with b) := by
  have hjobs : Job.ofSite kind (s.with a) = Job.ofSite kind (s.with b) :=
    jobs_alike h s.value.children
  unfold runChildren
  rw [hjobs]
  rfl

theorem wrap_same (h : Members.Alike kind a b) {c c' : Checker} (hc : Same c c') :
    Same (wrap (s.with a) kind c) (wrap (s.with b) kind c') := by
  intro e J
  cases kind with
  | array | object => simp only [wrap, run, hc e J, runChildren_alike h e J]
  | _ => exact hc e J

/-- Bound to two nodes that agree on what a keyword reads, what it asks is the same. -/
theorem checker_same {k : Keyword} (h : ∀ name ∈ k.reads, a.get? name = b.get? name) :
    Same (k.checker a (s.with a)) (k.checker b (s.with b)) := by
  intro e J
  unfold Keyword.checker
  rw [Keyword.build_congr h]
  split
  · rename_i l hl
    exact Logic.run_with hl e J k.name s a b
  · rfl

theorem entry_same {k : Keyword} (h : ∀ name ∈ k.reads, a.get? name = b.get? name)
    (kinds : List Kind) (i : Nat) :
    Answer.Rel Same (Entry.checker ⟨k.name, kinds, k.builder, i⟩ (s.with a))
      (Entry.checker ⟨k.name, kinds, k.builder, i⟩ (s.with b)) := by
  rw [Keyword.checker_entry rfl, Keyword.checker_entry rfl, Keyword.build_congr h]
  exact .same_map _ fun _ _ => checker_same h

/-- Entries that apply are built to checkers that do the same, or fail at the same keyword. -/
theorem build_same (h : Members.Alike kind a b) {xs : List (Keyword × Nat)}
    (hxs : ∀ x ∈ xs, kind ∈ x.1.kinds) :
    Answer.Rel (List.Forall₂ Same) (build (s.with a) (xs.map Keyword.entry)).2
      (build (s.with b) (xs.map Keyword.entry)).2 := by
  apply build_rel
  intro y hy
  obtain ⟨x, hx, rfl⟩ := List.mem_map.mp hy
  exact entry_same (Keyword.get?_reads h (hxs x hx)) x.1.kinds x.2

/-- What the entries of a node are made to. -/
def made (v : Vocabulary) (s : Site) (kind : Kind) (node : Members) : Checker :=
  match (build s (v.applicable (Members.keys node) kind)).2 with
  | .ok cs => wrap s kind (allOf cs)
  | .error (keyword, f) => (unusable s (some keyword) f).1

theorem made_same (h : Members.Alike kind a b) :
    Same (made .known (s.with a) kind a) (made .known (s.with b) kind b) := by
  obtain ⟨xs, hxs, happ⟩ := Keyword.applicable_known b kind
  have hkinds : ∀ x ∈ xs, kind ∈ x.1.kinds := by
    intro x hx
    have hsel : x.1 ∈ Keyword.selected b kind := hxs ▸ List.mem_map_of_mem hx
    exact (Keyword.mem_selected.mp hsel).2
  have hbuild := build_same (s := s) h hkinds
  unfold made
  rw [Vocabulary.applicable_alike h, happ]
  -- a failure is told of with the places of the site only, which are the same
  generalize (build (s.with a) (xs.map Keyword.entry)).2 = x at hbuild ⊢
  generalize (build (s.with b) (xs.map Keyword.entry)).2 = y at hbuild ⊢
  cases hbuild with
  | error e => exact fun e J => rfl
  | ok hcs => exact wrap_same h (allOf_same hcs)

/-- Dispatch passes over an empty node, which asks for nothing either way. -/
theorem forSite_made (v : Vocabulary) (node : Members) (hk : s.kind = .ok kind) :
    ∃ c, (forSite v (s.with node)).2 = .ok c ∧ Same c (made v (s.with node) kind node) := by
  cases node with
  | nil =>
    refine ⟨.always, rfl, ?_⟩
    have hnone : v.applicable (Members.keys []) kind = [] :=
      List.filter_eq_nil_iff.mpr fun x _ => by simp [Members.keys]
    have hjobs : Job.ofSite kind (s.with []) = .ok [] := forChildren_nil kind s.value.children
    intro e J
    unfold made
    rw [hnone]
    cases kind with
    | array | object =>
      simp only [build, allOf, wrap, run, runChildren, hjobs, List.map_nil, List.isEmpty_nil,
        Bool.not_true, Bool.and_false, Bool.false_and, Bool.false_eq_true, if_false, Step.all]
      rfl
    | _ => rfl
  | cons m ms =>
    refine ⟨made v (s.with (m :: ms)) kind (m :: ms), ?_, fun e J => rfl⟩
    have hkind : (s.with (m :: ms)).kind = .ok kind := hk
    have hschema : (s.with (m :: ms)).schema = .obj (m :: ms) := rfl
    simp only [forSite, made, hschema, hkind]
    rcases build (s.with (m :: ms)) (v.applicable (Members.keys (m :: ms)) kind) with
      ⟨notes, ⟨keyword, f⟩ | cs⟩
    · rfl
    · rfl

/-- Dispatch makes checkers that do the same of nodes that agree on what counts. -/
theorem forSite_same (h : Members.Alike kind a b) (hk : s.kind = .ok kind) :
    ∃ c c', (forSite .known (s.with a)).2 = .ok c ∧ (forSite .known (s.with b)).2 = .ok c' ∧
      Same c c' := by
  obtain ⟨c, hc, hmade⟩ := forSite_made .known a hk
  obtain ⟨c', hc', hmade'⟩ := forSite_made .known b hk
  refine ⟨c, c', hc, hc', ?_⟩
  intro e J
  calc
    c.run e J = (made .known (s.with a) kind a).run e J := hmade e J
    _ = (made .known (s.with b) kind b).run e J := made_same h e J
    _ = c'.run e J := (hmade' e J).symm

end Checker

/-- Two steps that come to the same verdict and the same report, whatever notes they take. -/
def Step.Agrees (a b : Step) : Prop :=
  ∀ j, (a j).1.report = (b j).1.report ∧ (a j).2 = (b j).2

namespace Setting

variable {e : Setting} {kind : Kind} {a b : Members} {s : Site}

/-- What a node comes to is what its checker does, after some notes. -/
theorem round_agrees_checker {J : Judge} {t : Site} {c : Checker} (hJ : J.Uniform)
    (h : (Checker.forSite e.vocabulary t).2 = .ok c) : (e.round J t).Agrees (c.run e J) := by
  have hround : (e.round J t).outcome =
      (c.run e J).outcome.after (Checker.forSite e.vocabulary t).1 :=
    outcome_round hJ (Prod.ext rfl h)
  intro j
  rw [e.uniform_round hJ t j, c.uniform_run e hJ j, hround]
  exact ⟨rfl, rfl⟩

/-- Nodes that agree on what counts are judged alike, with any number of nested dispatches. -/
theorem judge_alike (hv : e.vocabulary = .known) (hk : s.kind = .ok kind)
    (h : Members.Alike kind a b) (n : Nat) :
    (e.judge n (s.with a)).Agrees (e.judge n (s.with b)) := by
  intro j
  cases n with
  | zero => exact ⟨rfl, rfl⟩
  | succ n =>
    have hJ := e.uniform_judge n
    obtain ⟨c, c', hc, hc', hsame⟩ := Checker.forSite_same h hk
    rw [← hv] at hc hc'
    obtain ⟨hreport, hverdict⟩ := round_agrees_checker hJ hc j
    obtain ⟨hreport', hverdict'⟩ := round_agrees_checker hJ hc' j
    rw [← hsame e (e.judge n)] at hreport' hverdict'
    exact ⟨hreport.trans hreport'.symm, hverdict.trans hverdict'.symm⟩

/-- The fuel of a site is enough with any more, so that of two the larger serves both. -/
theorem judge_eq_judgeSite (hv : e.vocabulary = .known) (hloops : e.loops ≠ .follow)
    (htrail : s.OnTrail e.documents) {node : Members} {n : Nat}
    (hn : e.fuelFor (s.with node) ≤ n) : e.judge n (s.with node) = e.judgeSite (s.with node) := by
  have hnode : (s.with node).OnTrail e.documents :=
    ⟨htrail.paths, htrail.nodup, htrail.targets⟩
  rw [judge_eq_rounds]
  exact rounds_fuelFor hv hloops hnode _ hn

theorem judgeSite_alike (hv : e.vocabulary = .known) (hloops : e.loops ≠ .follow)
    (hk : s.kind = .ok kind) (htrail : s.OnTrail e.documents) (h : Members.Alike kind a b) :
    (e.judgeSite (s.with a)).Agrees (e.judgeSite (s.with b)) := by
  rw [← judge_eq_judgeSite hv hloops htrail (le_max_left _ (e.fuelFor (s.with b))),
    ← judge_eq_judgeSite hv hloops htrail (le_max_right (e.fuelFor (s.with a)) _)]
  exact judge_alike hv hk h _

end Setting

namespace Validator

variable {e : Setting} {kind : Kind} {a b : Members} {value : Value}

/-- A result is made of the verdict and of what was found. -/
theorem validate_eq_map (v : Validator) (x : Value) : (v.validate x).2 =
    (v.findings x).2.map fun valid => v.resultOf valid (v.findings x).1.report.messages := by
  unfold validate
  rcases v.findings x with ⟨j, f | valid⟩
  · rfl
  · rfl

/-- Validators whose schemas agree on what counts for a value come to the same result. -/
theorem validate_alike (hv : e.vocabulary = .known) (hloops : e.loops ≠ .follow)
    (hk : Kind.classify value = .ok kind) (h : Members.Alike kind a b) (location : Location) :
    ((⟨.obj a, e, location⟩ : Validator).validate value).2 =
      ((⟨.obj b, e, location⟩ : Validator).validate value).2 := by
  have hfindings : ((⟨.obj a, e, location⟩ : Validator).findings value).1.report =
        ((⟨.obj b, e, location⟩ : Validator).findings value).1.report ∧
      ((⟨.obj a, e, location⟩ : Validator).findings value).2 =
        ((⟨.obj b, e, location⟩ : Validator).findings value).2 :=
    Setting.judgeSite_alike (s := (⟨.obj a, e, location⟩ : Validator).site value) hv hloops hk
      (.of_trail_eq_nil rfl) h _
  rw [validate_eq_map, validate_eq_map, hfindings.1, hfindings.2]
  rfl

end Validator

/-- Type scoping. Let a keyword not apply to the kind of a value. Then a node with any value for
that keyword and the node without it make checkers that do the same, judge alike and find the
same, in the same order, and validators by them come to the same result. What other keywords that
apply are built to, the schemas for the children and what is asked do not depend on it. -/
theorem Setting.scoped_by_kind (e : Setting) (hv : e.vocabulary = .known) {s : Site} {kind : Kind}
    (hk : s.kind = .ok kind) {k : Keyword} (hout : kind ∉ k.kinds) (node : Members)
    (x x' : Value) :
    ∀ a ∈ [node.put k.name x, node.put k.name x', node.without k.name],
    ∀ b ∈ [node.put k.name x, node.put k.name x', node.without k.name],
      (∃ c c', (Checker.forSite e.vocabulary (s.with a)).2 = .ok c ∧
        (Checker.forSite e.vocabulary (s.with b)).2 = .ok c' ∧
        ∀ J, c.run e J = c'.run e J) ∧
      (∀ fuel, (e.judge fuel (s.with a)).Agrees (e.judge fuel (s.with b))) ∧
      (e.loops ≠ .follow → s.OnTrail e.documents →
        (e.judgeSite (s.with a)).Agrees (e.judgeSite (s.with b))) ∧
      (e.loops ≠ .follow → ∀ location,
        ((⟨.obj a, e, location⟩ : Validator).validate s.value).2 =
          ((⟨.obj b, e, location⟩ : Validator).validate s.value).2) ∧
      (∀ l : Keyword, kind ∈ l.kinds → l.build a = l.build b) ∧
      (∀ token, ChildSchema.ofKind kind a token = ChildSchema.ofKind kind b token) ∧
      ∀ (l : Keyword) (built : Members) (logic : Logic), l.build built = .ok (.logic logic) →
        ∀ J, logic.run e J l.name (s.with a) = logic.run e J l.name (s.with b) := by
  -- each of the three has what the node has under every other name
  have hothers : ∀ a ∈ [node.put k.name x, node.put k.name x', node.without k.name],
      ∀ name, name ≠ k.name → a.get? name = node.get? name := by
    intro a ha name hname
    simp only [List.mem_cons, List.not_mem_nil, or_false] at ha
    rcases ha with rfl | rfl | rfl
    · exact Members.get?_put_of_ne node x hname.symm
    · exact Members.get?_put_of_ne node x' hname.symm
    · exact Members.get?_without_of_ne node hname
  intro a ha b hb
  have halike : Members.Alike kind a b := Members.alike_of_ne hout fun name hname =>
    (hothers a ha name hname).trans (hothers b hb name hname).symm
  obtain ⟨c, c', hc, hc', hsame⟩ := Checker.forSite_same halike hk
  refine ⟨⟨c, c', by rw [hv]; exact hc, by rw [hv]; exact hc', hsame e⟩,
    judge_alike hv hk halike, fun hloops htrail => judgeSite_alike hv hloops hk htrail halike,
    fun hloops location => Validator.validate_alike hv hloops hk halike location,
    fun l hl => Keyword.build_alike halike hl, ChildSchema.ofKind_alike halike, ?_⟩
  intro l built logic hlogic J
  exact Logic.run_with hlogic e J l.name s a b

/-- A limit on items that is no number spoils a node for arrays, but not for an object. -/
theorem Setting.scoped_by_kind_malformed :
    let e : Setting := ⟨.known, {}, {}, .report⟩
    let value : Value := .obj [("a", .int 1)]
    let node : Members := [("additionalProperties", .bool false)]
    let spoiled : Members := node.put Keyword.maxItems.name (.str "many")
    Kind.object ∉ Keyword.maxItems.kinds ∧ Kind.classify value = .ok .object ∧
      Keyword.maxItems.refuses spoiled = true ∧
      ((⟨.obj spoiled, e, {}⟩ : Validator).validate value).2 =
        ((⟨.obj (node.without Keyword.maxItems.name), e, {}⟩ : Validator).validate value).2 := by
  intro e value node spoiled
  have hkind : Kind.classify value = .ok .object := rfl
  have hout : Kind.object ∉ Keyword.maxItems.kinds := by decide
  have hscoped := Setting.scoped_by_kind e rfl (s := ⟨.null, value, .root, {}, [], false⟩) hkind
    hout node (.str "many") (.int 3) spoiled List.mem_cons_self
    (node.without Keyword.maxItems.name) (by simp)
  have hvalidates := hscoped.2.2.2.1
  exact ⟨hout, hkind, rfl, hvalidates (by decide) {}⟩

end Conform
