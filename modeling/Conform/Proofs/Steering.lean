import Conform.Proofs.Composition
import Conform.Proofs.Failing
import Conform.Proofs.Scoping
import Conform.Proofs.Unpooled

/-!
Steering. The schemas for children are read off the node itself, not off what its keywords were
built to. A vocabulary without an entry for the members that they are read off builds nothing for
these: at the node they count for nothing, but the children are judged by their schemas all the
same. So a node comes to what its other members come to, and then to what the children come to.
-/
namespace Conform

namespace Members

variable {names : List String} {name : String}

/-- The members of other names than these. -/
def outside (ms : Members) (names : List String) : Members := ms.filter fun m => !names.contains m.1

theorem get?_outside (ms : Members) (h : name ∉ names) :
    (outside ms names).get? name = ms.get? name := by
  induction ms with
  | nil => rfl
  | cons m ms ih =>
    by_cases hm : m.1 ∈ names
    · have hdropped : outside (m :: ms) names = outside ms names := by simp [outside, hm]
      have hother : name ≠ m.1 := fun he => h (he ▸ hm)
      rw [hdropped, ih, get?_cons, if_neg hother]
    · have hstays : outside (m :: ms) names = m :: outside ms names := by simp [outside, hm]
      rw [hstays, get?_cons, get?_cons, ih]

theorem get?_outside_of_mem (ms : Members) (h : name ∈ names) :
    (outside ms names).get? name = none := by
  rw [get?_eq_none_iff]
  intro hname
  obtain ⟨m, hm, rfl⟩ := List.mem_map.mp hname
  have hout := (List.mem_filter.mp hm).2
  simp [h] at hout

/-- Nodes that agree on every member of another name than these. -/
def AgreeOutside (names : List String) (a b : Members) : Prop :=
  ∀ name, name ∉ names → a.get? name = b.get? name

theorem agreeOutside_outside (ms : Members) (names : List String) :
    AgreeOutside names ms (ms.outside names) :=
  fun _ h => (get?_outside ms h).symm

end Members

namespace ChildSchema

variable {node : Members} {kind : Kind}

/-- The members that the schemas for children are read off. -/
def steering : List String := reads .array ++ reads .object

theorem mem_steering {name : String} (h : name ∈ reads kind) : name ∈ steering := by
  cases kind with
  | array => exact List.mem_append_left _ h
  | object => exact List.mem_append_right _ h
  | _ => cases h

/-- Without them there is no schema for any child. -/
theorem ofKind_outside (kind : Kind) (node : Members) (token : Token) :
    ofKind kind (node.outside steering) token = .ok [] := by
  rw [← Checker.ofKind_nil kind token]
  apply ofKind_congr
  intro name hname
  exact node.get?_outside_of_mem (mem_steering hname)

/-- Every pattern of a node for the members of a value can be read, and searched for in their
names. -/
def Searches (node : Members) (value : Value) : Prop :=
  ∀ ms sources, value = .obj ms → node.get? "patternProperties" = some (.obj sources) →
    ∀ name ∈ Members.keys ms, ∀ source ∈ Members.keys sources,
      ∃ p b, Pattern.compile source = .ok p ∧ p.search name = .ok b

/-- Nothing but a pattern keeps the schemas for a child from being told, however malformed the
members are that they are read off. -/
theorem ofKind_of_searches {value : Value} (hk : Kind.classify value = .ok kind)
    (h : Searches node value) :
    ∀ c ∈ value.children, ∃ ts, ofKind kind node c.1 = .ok ts := by
  intro c hc
  cases hts : ofKind kind node c.1 with
  | ok ts => exact ⟨ts, rfl⟩
  | error f =>
    have hof := Kind.classify_ok.mp hk
    -- an element has its schemas whatever the items are; a member is looked for by the patterns too
    cases kind with
    | array =>
      obtain ⟨xs, rfl⟩ := Value.eq_arr_of_kind hof
      obtain ⟨i, hi, _⟩ := Value.index_of_mem_children hc
      rw [hi] at hts
      exact absurd hts forElement_ne_error
    | object =>
      obtain ⟨ms, rfl⟩ := Value.eq_obj_of_kind hof
      obtain ⟨name, hname, hmem⟩ := Value.name_of_mem_children hc
      rw [hname] at hts
      obtain ⟨source, t, ⟨sources, hsources, hsource⟩, hcause⟩ := forMember_error hts
      obtain ⟨p, b, hp, hb⟩ := h ms sources rfl hsources name (List.mem_map_of_mem hmem) source
        (List.mem_map_of_mem hsource)
      rcases hcause with hcompile | ⟨q, hq, hsearch⟩
      · cases hp.symm.trans hcompile
      · obtain rfl : p = q := Except.ok.inj (hp.symm.trans hq)
        cases hb.symm.trans hsearch
    | _ => cases hts

end ChildSchema

/-- An entry that does not read the members of some names: at nodes that agree on all others it makes
checkers that do the same, or fails in the same way. -/
def Entry.Ignores (x : Entry) (names : List String) : Prop :=
  ∀ (s : Site) (a b : Members), Members.AgreeOutside names a b →
    Answer.Rel Checker.Same (x.checker (s.with a)) (x.checker (s.with b))

/-- A known keyword ignores what its builder does not read. -/
theorem Keyword.ignores {k : Keyword} {names : List String} (h : ∀ name ∈ k.reads, name ∉ names)
    (kinds : List Kind) (i : Nat) : Entry.Ignores ⟨k.name, kinds, k.builder, i⟩ names := by
  intro s a b hab
  apply Checker.entry_same
  exact fun name hname => hab name (h name hname)

namespace Vocabulary

variable {v : Vocabulary} {names : List String} {a b : Members}

/-- No entry is named after the members of some names, and none reads them. -/
structure Ignores (v : Vocabulary) (names : List String) : Prop where
  unnamed : ∀ x ∈ v.entries, x.name ∉ names
  unread : ∀ x ∈ v.entries, x.Ignores names

theorem applicable_outside (hv : v.Ignores names) (hab : Members.AgreeOutside names a b)
    (kind : Kind) : v.applicable (Members.keys a) kind = v.applicable (Members.keys b) kind := by
  apply List.filter_congr
  intro x hx
  have hkeys : (Members.keys a).contains x.name = (Members.keys b).contains x.name := by
    rw [Bool.eq_iff_iff, Keyword.contains_keys, Keyword.contains_keys,
      hab x.name (hv.unnamed x hx)]
  rw [hkeys]

/-- Known keywords that do not read some members make a vocabulary that ignores these. -/
theorem ignores_insertKnown {only : List String}
    (h : ∀ k ∈ Keyword.all, k.name ∈ only → ∀ name ∈ k.reads, name ∉ names) :
    (insertKnown {} (some only)).Ignores names := by
  refine ⟨?_, ?_⟩
  · apply forall_insertKnown
    intro k hk _
    exact h k k.mem_all (hk only rfl) k.name k.name_mem_reads
  · apply forall_insertKnown
    intro k hk place
    exact Keyword.ignores (h k k.mem_all (hk only rfl)) k.kinds place

end Vocabulary

namespace Checker

variable {e : Setting} {J : Judge} {s : Site} {kind : Kind} {node : Members}

/-- The verdict on what is below a site joins those on the children. -/
theorem verdict_below (hJ : J.Uniform) (hs : s.schema = .obj node) (hk : s.kind = .ok kind)
    (h : ∀ c ∈ s.value.children, ∃ ts, ChildSchema.ofKind kind node c.1 = .ok ts) :
    (descent e J kind s).verdict = (Outcome.all (childOutcomes J s kind node)).verdict := by
  by_cases hkind : kind = .array ∨ kind = .object
  · obtain ⟨jobs, hjobs⟩ : ∃ jobs, Job.ofSite kind s = .ok jobs := by
      simp only [Job.ofSite, Site.node, hs]
      exact ⟨_, Job.forChildren_of_ok h⟩
    rw [descent, if_pos hkind, verdict_runChildren hJ hjobs, (outcomes_of_jobs hs hjobs).2]
  · push Not at hkind
    have hnone := children_of_scalar hk hkind.1 hkind.2
    rw [descent, if_neg (by simp [hkind]), childOutcomes, hnone]
    rfl

end Checker

namespace Outcome

/-- The same messages and the same verdict, whatever notes were taken. -/
structure Same (a b : Outcome) : Prop where
  messages : a.messages = b.messages
  verdict : a.verdict = b.verdict

variable {a b c : Outcome}

theorem Same.symm (h : a.Same b) : b.Same a := ⟨h.messages.symm, h.verdict.symm⟩

theorem Same.trans (hab : a.Same b) (hbc : b.Same c) : a.Same c :=
  ⟨hab.messages.trans hbc.messages, hab.verdict.trans hbc.verdict⟩

theorem same_after (a : Outcome) (ns : List Note) : (a.after ns).Same a := ⟨rfl, rfl⟩

theorem Same.andThen (h : a.Same b) (c : Outcome) : (a.andThen c).Same (b.andThen c) := by
  have hverdict := h.verdict
  unfold Outcome.andThen
  rw [hverdict]
  cases b.verdict with
  | error f => exact ⟨h.messages, hverdict⟩
  | ok x => exact ⟨congrArg (· ++ c.messages) h.messages, rfl⟩

end Outcome

theorem Step.agrees_of_same {a b : Step} (ha : a.Uniform) (hb : b.Uniform)
    (h : a.outcome.Same b.outcome) : a.Agrees b := by
  intro j
  rw [ha j, hb j]
  simp only [Outcome.onto, h.messages, h.verdict, and_self]

namespace Setting

variable {e : Setting} {J : Judge} {s : Site} {kind : Kind} {names : List String} {a b : Members}

/-- A node comes to what its entries were made to. -/
theorem round_made (hJ : J.Uniform) (hk : s.kind = .ok kind) (node : Members) :
    (e.round J (s.with node)).outcome.Same
      ((Checker.made e.vocabulary (s.with node) kind node).run e J).outcome := by
  obtain ⟨c, hc, hsame⟩ := Checker.forSite_made e.vocabulary node hk
  rw [outcome_round hJ (Prod.ext rfl hc), hsame e J]
  exact Outcome.same_after _ _

/-- Nodes that agree on all that a vocabulary does not ignore are built alike. -/
theorem build_outside (hv : e.vocabulary.Ignores names) (hab : Members.AgreeOutside names a b)
    (s : Site) (kind : Kind) :
    Answer.Rel (List.Forall₂ Checker.Same)
      (Checker.build (s.with a) (e.vocabulary.applicable (Members.keys a) kind)).2
      (Checker.build (s.with b) (e.vocabulary.applicable (Members.keys b) kind)).2 := by
  rw [Vocabulary.applicable_outside hv hab]
  apply Checker.build_rel
  intro x hx
  exact hv.unread x (List.mem_filter.mp hx).1 s a b hab

/-- A keyword that makes one of two nodes unusable makes the other so too, with the same complaint,
if they agree on all that the vocabulary does not ignore. -/
theorem round_outside_of_error (hJ : J.Uniform) (hk : s.kind = .ok kind)
    (hv : e.vocabulary.Ignores names) (hab : Members.AgreeOutside names a b)
    (h : ∃ x ∈ e.vocabulary.applicable (Members.keys a) kind, ∃ f,
      x.checker (s.with a) = .error f) :
    (e.round J (s.with a)).outcome.Same (e.round J (s.with b)).outcome := by
  obtain ⟨pre, bad, post, f, hK, hpre, hbad⟩ := Checker.exists_first h
  have hfirst : (Checker.build (s.with a) (e.vocabulary.applicable (Members.keys a) kind)).2 =
      .error (bad.name, f) := by
    rw [hK, Checker.build_of_first hpre hbad]
  have hbuild := build_outside hv hab s kind
  rw [hfirst] at hbuild
  -- the complaint is about the place of the site, which is the same
  have hmade : Checker.made e.vocabulary (s.with a) kind a =
      Checker.made e.vocabulary (s.with b) kind b := by
    unfold Checker.made
    rw [hfirst, hbuild.eq_error]
    rfl
  have hsame := round_made (e := e) hJ hk a
  rw [hmade] at hsame
  exact hsame.trans (round_made hJ hk b).symm

/-- Two nodes agree on all that the vocabulary does not ignore, and each keyword makes a checker.
If nothing is below the second, the first comes to what the second comes to, and then to what is
below it. -/
theorem round_outside_of_ok (hJ : J.Uniform) (hk : s.kind = .ok kind)
    (hv : e.vocabulary.Ignores names) (hab : Members.AgreeOutside names a b)
    (h : ∀ x ∈ e.vocabulary.applicable (Members.keys a) kind, ∃ c, x.checker (s.with a) = .ok c)
    (hb : ∀ c ∈ s.value.children, ChildSchema.ofKind kind b c.1 = .ok []) :
    (e.round J (s.with a)).outcome.Same
      ((e.round J (s.with b)).outcome.andThen (Checker.descent e J kind (s.with a))) := by
  obtain ⟨cs, hchecker⟩ := Checker.exists_checkers h
  have hall : (Checker.build (s.with a) (e.vocabulary.applicable (Members.keys a) kind)).2 =
      .ok cs := by
    rw [Checker.build_of_forall hchecker]
  have hbuild := build_outside hv hab s kind
  rw [hall] at hbuild
  obtain ⟨cs', hall', hcs⟩ := hbuild.exists_ok
  have hmade := round_made (e := e) hJ hk a
  have hmade' := round_made (e := e) hJ hk b
  simp only [Checker.made, hall, hall', Checker.outcome_wrap e hJ] at hmade hmade'
  -- below the second there is nothing, so that it comes to what the joined keywords come to
  have hnone : Checker.descent e J kind (s.with b) = .pass :=
    Checker.descent_of_none e (s := s.with b) rfl hb
  rw [hnone, Outcome.andThen_pass, ← Checker.allOf_same hcs e J] at hmade'
  exact hmade.trans (hmade'.symm.andThen _)

/-- An outcome followed by what is below a site: the verdicts are joined, and if there is one, the
messages of the children follow in their order. -/
theorem onto_below (hJ : J.Uniform) (hk : s.kind = .ok kind) {node : Members}
    (hs : s.schema = .obj node) (hsearches : ChildSchema.Searches node s.value) {o o' : Outcome}
    (h : o'.Same (o.andThen (Checker.descent e J kind s))) (j : Journal) :
    (o'.onto j).2 = (o.andThen (Outcome.all (Checker.childOutcomes J s kind node))).verdict ∧
      ∀ b, (o'.onto j).2 = .ok b → (o'.onto j).1.report = j.report.logAll
        (o.messages ++ (Checker.childOutcomes J s kind node).flatMap (·.messages)) := by
  have hschemas := ChildSchema.ofKind_of_searches hk hsearches
  refine ⟨?_, fun b hb => ?_⟩
  · calc
      o'.verdict = (o.andThen (Checker.descent e J kind s)).verdict := h.verdict
      _ = (o.andThen (Outcome.all (Checker.childOutcomes J s kind node))).verdict := by
        rw [Outcome.verdict_andThen, Outcome.verdict_andThen,
          Checker.verdict_below hJ hs hk hschemas]
  · have hanswers : (o.andThen (Checker.descent e J kind s)).verdict = .ok b := by
      rw [← h.verdict]
      exact hb
    obtain ⟨x, y, hx, hy, _⟩ := Outcome.verdict_andThen_ok.mp hanswers
    have hdescends := Checker.descends_of_descent hJ hs hk hy
    obtain ⟨ns, hbelow⟩ := Checker.descent_of_descends (e := e) hJ hs hk hdescends
    have hmessages : o'.messages =
        o.messages ++ (Checker.childOutcomes J s kind node).flatMap (·.messages) := by
      rw [h.messages, hbelow, Outcome.messages_andThen_after]
      simp only [Outcome.andThen, hx, (Outcome.all_of_answers hdescends.answers).1]
    simp only [Outcome.onto, hmessages]

/-- A vocabulary without an entry for the members that schemas for children are read off, and with
none that reads them. At a node these members count for nothing: the same entries are built and do
the same, and what makes the node unusable without them does so with them. All they do is to have
children judged, each by the schemas for it: the node comes to what its other members come to, which
judge no child, and then to what the children come to. -/
theorem steering_members (e : Setting) (hv : e.vocabulary.Ignores ChildSchema.steering) {s : Site}
    {kind : Kind} (hk : s.kind = .ok kind) (node : Members) (fuel : Nat) :
    let own := node.outside ChildSchema.steering
    let entries := e.vocabulary.applicable (Members.keys node) kind
    let whole := e.judge (fuel + 1) (s.with node)
    let alone := e.judge (fuel + 1) (s.with own)
    let below := Checker.childOutcomes (e.judge fuel) (s.with node) kind node
    entries = e.vocabulary.applicable (Members.keys own) kind ∧
    (∀ x ∈ entries, Answer.Rel Checker.Same (x.checker (s.with node)) (x.checker (s.with own))) ∧
    (∀ token, ChildSchema.ofKind kind own token = .ok []) ∧
    ((∃ x ∈ entries, ∃ f, x.checker (s.with node) = .error f) → whole.Agrees alone) ∧
    ((∀ c ∈ s.value.children, ChildSchema.ofKind kind node c.1 = .ok []) → whole.Agrees alone) ∧
    ((∀ x ∈ entries, ∃ c, x.checker (s.with node) = .ok c) → ChildSchema.Searches node s.value →
      ∀ j, (whole j).2 = (alone.outcome.andThen (Outcome.all below)).verdict ∧
        ∀ b, (whole j).2 = .ok b → (whole j).1.report =
          j.report.logAll (alone.outcome.messages ++ below.flatMap (·.messages))) := by
  intro own entries whole alone below
  have hJ := e.uniform_judge fuel
  have huniform : whole.Uniform := e.uniform_judge (fuel + 1) _
  have halone : alone.Uniform := e.uniform_judge (fuel + 1) _
  have hab : Members.AgreeOutside ChildSchema.steering node own := node.agreeOutside_outside _
  have hnone : ∀ token, ChildSchema.ofKind kind own token = .ok [] :=
    ChildSchema.ofKind_outside kind node
  have herror (h : ∃ x ∈ entries, ∃ f, x.checker (s.with node) = .error f) : whole.Agrees alone :=
    Step.agrees_of_same huniform halone (round_outside_of_error hJ hk hv hab h)
  have hok (h : ∀ x ∈ entries, ∃ c, x.checker (s.with node) = .ok c) : whole.outcome.Same
      (alone.outcome.andThen (Checker.descent e (e.judge fuel) kind (s.with node))) :=
    round_outside_of_ok hJ hk hv hab h fun c _ => hnone c.1
  refine ⟨Vocabulary.applicable_outside hv hab kind, ?_, hnone, herror, ?_, ?_⟩
  · exact fun x hx => hv.unread x (List.mem_filter.mp hx).1 s node own hab
  · intro h
    by_cases hfails : ∃ x ∈ entries, ∃ f, x.checker (s.with node) = .error f
    · exact herror hfails
    · have hbuilt : ∀ x ∈ entries, ∃ c, x.checker (s.with node) = .ok c := by
        intro x hx
        cases hc : x.checker (s.with node) with
        | ok c => exact ⟨c, rfl⟩
        | error f => exact absurd ⟨x, hx, f, hc⟩ hfails
      have hbelow : Checker.descent e (e.judge fuel) kind (s.with node) = .pass :=
        Checker.descent_of_none e (s := s.with node) rfl h
      have hsame := hok hbuilt
      rw [hbelow, Outcome.andThen_pass] at hsame
      exact Step.agrees_of_same huniform halone hsame
  · intro h hsearches j
    rw [huniform j]
    exact onto_below (s := s.with node) hJ hk rfl hsearches (hok h) j

/-- With types only, a node that asks for an array has its elements judged by its items. -/
theorem steering_members_types :
    let e : Setting := ⟨.insertKnown {} (some ["type"]), {}, {}, .report⟩
    let node : Members := [("type", .str "array"), ("items", .obj [("type", .str "string")])]
    let s : Site := ⟨.null, .arr [.int 1], .root, {}, [], false⟩
    let whole := e.judge 2 (s.with node)
    let alone := e.judge 2 (s.with (node.outside ChildSchema.steering))
    let below := Checker.childOutcomes (e.judge 1) (s.with node) .array node
    e.vocabulary.Ignores ChildSchema.steering ∧ s.kind = .ok .array ∧
      ChildSchema.Searches node s.value ∧
      alone.outcome.verdict = .ok true ∧ alone.outcome.messages = [] ∧
      below.map (·.verdict) = [.ok false] ∧
      ∀ j, (whole j).2 = .ok false ∧
        (whole j).1.report = j.report.logAll (below.flatMap (·.messages)) := by
  intro e node s whole alone below
  have hv : e.vocabulary.Ignores ChildSchema.steering := by
    apply Vocabulary.ignores_insertKnown
    decide
  have hsearches : ChildSchema.Searches node s.value := by
    intro ms sources hvalue
    cases hvalue
  have hsteered := steering_members e hv (show s.kind = .ok .array from rfl) node 1
  have hbuilt : ∀ x ∈ e.vocabulary.applicable (Members.keys node) .array,
      ∃ c, x.checker (s.with node) = .ok c :=
    List.forall_mem_singleton.mpr ⟨_, rfl⟩
  have halone : alone.outcome.verdict = .ok true := rfl
  have hquiet : alone.outcome.messages = [] := rfl
  have hbelow : below.map (·.verdict) = [.ok false] := rfl
  refine ⟨hv, rfl, hsearches, halone, hquiet, hbelow, fun j => ?_⟩
  obtain ⟨hverdict, hreport⟩ := hsteered.2.2.2.2.2 hbuilt hsearches j
  have hno : (whole j).2 = .ok false := hverdict
  refine ⟨hno, ?_⟩
  have hlogged := hreport false hno
  rwa [hquiet, List.nil_append] at hlogged

/-- With types only, items still decide: an element is judged by them, and fails. -/
theorem items_decide :
    let v : Vocabulary := .insertKnown {} (some ["type"])
    let node : Members := [("items", .obj [("type", .str "string")])]
    let verdict (node : Members) : Option Bool :=
      ((⟨.obj node, ⟨v, {}, {}, .report⟩, {}⟩ : Validator).validate
        (.arr [.int 1])).2.toOption.map (·.isValid)
    v.Ignores ChildSchema.steering ∧ verdict node = some false ∧
      verdict (node.outside ChildSchema.steering) = some true := by
  intro v node verdict
  have hv : v.Ignores ChildSchema.steering := by
    apply Vocabulary.ignores_insertKnown
    decide
  refine ⟨hv, ?_, ?_⟩
  · decide +kernel
  · decide +kernel

end Setting

end Conform
