import Conform.Proofs.Collapse
import Conform.Proofs.Composition
import Conform.Proofs.Correspondence
import Conform.Proofs.Fragments
import Conform.Proofs.Scoping
import Conform.Proofs.Unpooled

/-!
The base that a schema is judged from. A validator that makes its documents begins at the address
of the root among them; one that is given documents begins at the empty address. As long as the
references of the schema lead to the same from both, the two find the same, up to the address that
the places of the root are told with.
-/
namespace Conform

variable {u v : String}

/-- One message, or one at a place of the root, which is known by two addresses. -/
inductive Diagnostic.Renamed (u v : String) : Diagnostic → Diagnostic → Prop
  | same (d : Diagnostic) : Renamed u v d d
  | root (d : Diagnostic) (p : Pointer) :
      Renamed u v { d with schema := some ⟨u, p⟩ } { d with schema := some ⟨v, p⟩ }

/-- One site at the root, which is known by two addresses. -/
inductive Site.Renamed (u v : String) : Site → Site → Prop
  | root (s : Site) (p : Pointer) :
      Renamed u v { s with location := ⟨u, p⟩ } { s with location := ⟨v, p⟩ }

/-- Every reference in a schema, at whatever depth, leads to the same from two addresses. -/
def Documents.ReadsAlike (d : Documents) (u v : String) (schema : Value) : Prop :=
  ∀ (ts : List String) (node : Members) (ref : String), (ts, .obj node) ∈ schema.positions →
    node.get? "$ref" = some (.str ref) →
    d.resolve (.str ref) { uri := u } = d.resolve (.str ref) { uri := v }

/-- A judge that finds the same from two addresses, if the references read alike. -/
def Judge.Renames (d : Documents) (u v : String) (J : Judge) : Prop :=
  ∀ s t, Site.Renamed u v s t → d.ReadsAlike u v s.schema →
    (J s).outcome.Corresponds (Diagnostic.Renamed u v) (J t).outcome

theorem Documents.ReadsAlike.of_position {d : Documents} {schema part : Value} {ts : List String}
    (h : d.ReadsAlike u v schema) (hpart : (ts, part) ∈ schema.positions) :
    d.ReadsAlike u v part := by
  intro us node ref hnode
  exact h _ node ref (Value.mem_positions_append hpart hnode)

namespace Site.Renamed

variable {s t : Site} (h : s.Renamed u v t)

include h

theorem schema : s.schema = t.schema := by
  cases h
  rfl

theorem pooled : s.pooled = t.pooled := by
  cases h
  rfl

theorem corresponds : s.Corresponds (Diagnostic.Renamed u v) t := by
  cases h with
  | root s p => exact ⟨rfl, fun message keyword details level domain =>
      .root (s.diagnostic message keyword details level domain) p⟩

theorem child (schema value : Value) (token : Token) (steps : List Token) :
    (s.child schema value token steps).Renamed u v (t.child schema value token steps) := by
  cases h with
  | root s p => exact .root (s.child schema value token steps) (p.append steps)

theorem under (schema : Value) (steps : List Token) :
    (s.under schema (s.location.append steps)).Renamed u v
      (t.under schema (t.location.append steps)) := by
  cases h with
  | root s p => exact .root (s.under schema s.location) (p.append steps)

theorem scratch (schema : Value) (steps : List Token) :
    (s.scratch schema (s.location.append steps)).Renamed u v
      (t.scratch schema (t.location.append steps)) := by
  cases h with
  | root s p => exact .root (s.scratch schema s.location) (p.append steps)

/-- A reference leads away from the root, to a place that has one address. -/
theorem follow (schema : Value) (l : Location) : s.follow schema l = t.follow schema l := by
  cases h
  rfl

theorem resolve {d : Documents} {node : Members} {ref : String} (hs : s.schema = .obj node)
    (hreads : d.ReadsAlike u v s.schema) (href : node.get? "$ref" = some (.str ref)) :
    d.resolve (.str ref) s.location = d.resolve (.str ref) t.location := by
  have hroot : ([], Value.obj node) ∈ s.schema.positions := by
    rw [hs]
    exact Value.root_mem_positions _
  have hsame := hreads [] node ref hroot href
  cases h with
  | root s p =>
    rw [Logic.resolve_uri, hsame]
    exact (Logic.resolve_uri d ref ⟨v, p⟩).symm

end Site.Renamed

namespace Keyword

variable {e : Setting} {J : Judge} {s t : Site} {node : Members}

/-- A part of a keyword's value is a part of the schema. -/
theorem reads_part {d : Documents} {keyword : String} {w : Value} {p : Part}
    (hreads : d.ReadsAlike u v (.obj node)) (hw : node.get? keyword = some w) (hp : p.Of w) :
    d.ReadsAlike u v p.schema :=
  (hreads.of_position (Value.position_of_get? hw)).of_position hp.mem_positions

theorem outcome_renamed (hJ : J.Uniform) (hrenames : J.Renames e.documents u v)
    (hst : s.Renamed u v t) (hs : s.schema = .obj node)
    (hreads : e.documents.ReadsAlike u v s.schema) (k : Keyword) :
    (k.outcome e J s node).Corresponds (Diagnostic.Renamed u v) (k.outcome e J t node) := by
  have hnode : e.documents.ReadsAlike u v (.obj node) := hs ▸ hreads
  unfold outcome
  split
  · rename_i l hb
    generalize hbuilt : Built.logic l = b at hb
    cases makes_of_build hb with
    | always => cases hbuilt
    | test test =>
      obtain rfl := Built.logic.inj hbuilt
      exact Logic.corresponds_test hst.corresponds test
    | unknownFormat name =>
      obtain rfl := Built.logic.inj hbuilt
      exact Logic.corresponds_unknownFormat hst.corresponds k.name name
    | types negated hw _ hof =>
      obtain rfl := Built.logic.inj hbuilt
      apply Logic.corresponds_types hst.corresponds hJ
      intro p hp
      exact hrenames _ _ (hst.scratch p.schema _) (reads_part hnode hw (hof p hp))
    | extending hw hparts =>
      obtain rfl := Built.logic.inj hbuilt
      apply Logic.corresponds_parts hJ
      intro p hp
      exact hrenames _ _ (hst.under p.schema _) (reads_part hnode hw (Expect.of_schemas hparts hp))
    | dependencies hw hd =>
      obtain rfl := Built.logic.inj hbuilt
      apply Logic.corresponds_dependencies hst.corresponds hJ
      intro m hm
      have hmem := (((dependencyList_ok hd).schemas m).mp hm).1
      have hmember : ([m.1], m.2) ∈ (Value.obj _).positions :=
        Value.mem_positions_of_child (Value.mem_children_of_member hmem) m.2.root_mem_positions
      exact hrenames _ _ (hst.under m.2 _)
        ((hnode.of_position (Value.position_of_get? hw)).of_position hmember)
    | @reference ref hw =>
      obtain rfl := Built.logic.inj hbuilt
      have hlooping : Diagnostic.Renamed u v (Logic.looping s ref) (Logic.looping t ref) := by
        cases hst with
        | root s p => exact .root (Logic.looping s ref) p
      have htrail (l : Location) : s.trail.contains (l, s.path) = t.trail.contains (l, t.path) := by
        cases hst
        rfl
      apply Logic.corresponds_reference hst.corresponds (hst.resolve hs hreads hw) htrail hlooping
      intro l target _
      rw [hst.follow target l]
      exact .refl .same _
  · exact .refl .same _

/-- Keywords are built alike at a site that is known by two addresses, to what comes to the same. -/
theorem build_renamed (hJ : J.Uniform) (hrenames : J.Renames e.documents u v)
    (hst : s.Renamed u v t) (hs : s.schema = .obj node)
    (hreads : e.documents.ReadsAlike u v s.schema) (xs : List (Keyword × Nat)) :
    Answer.Rel
      (List.Forall₂ fun c c' => (c.run e J).outcome.Corresponds (Diagnostic.Renamed u v)
        (c'.run e J).outcome)
      (Checker.build s (xs.map entry)).2 (Checker.build t (xs.map entry)).2 := by
  have ht : t.schema = .obj node := hst.schema ▸ hs
  apply Checker.build_rel
  intro y hy
  obtain ⟨⟨k, i⟩, -, rfl⟩ := List.mem_map.mp hy
  unfold entry
  dsimp only
  rw [checker_entry hs, checker_entry ht]
  apply Answer.Rel.same_map
  intro b _
  rw [Checker.outcome_checker, Checker.outcome_checker]
  exact outcome_renamed hJ hrenames hst hs hreads k

end Keyword

namespace Checker

variable {e : Setting} {J : Judge} {s t : Site} {node : Members} {kind : Kind}

theorem descent_renamed (hJ : J.Uniform) (hrenames : J.Renames e.documents u v)
    (hst : s.Renamed u v t) (hs : s.schema = .obj node) (hk : s.kind = .ok kind)
    (hreads : e.documents.ReadsAlike u v s.schema) :
    (descent e J kind s).Corresponds (Diagnostic.Renamed u v) (descent e J kind t) := by
  unfold descent
  split
  · rename_i hkind
    have hsame : Job.ofSite kind s = Job.ofSite kind t := by
      rw [Job.ofSite, Job.ofSite, Site.node, Site.node, hs, ← hst.schema, hs,
        hst.corresponds.value]
    apply corresponds_children hJ hsame hst.pooled
    intro jobs hjobs j hj
    have hleads := (Setting.leads_of_mem_ofSite hs hk hkind (hsame.trans hjobs) hj).2
    rw [ChildSchema.Leads, ← hs] at hleads
    exact hrenames _ _ (hst.child ..) (hreads.of_position hleads)
  · exact .refl .same _

theorem unusable_renamed (hst : s.Renamed u v t) (keyword : Option String) (f : Fault) :
    (run e J (unusable s keyword f).1).outcome.Corresponds (Diagnostic.Renamed u v)
      (run e J (unusable t keyword f).1).outcome :=
  Step.corresponds_fail (hst.corresponds.diagnostic ..)

end Checker

namespace Setting

variable {e : Setting} {J : Judge} {s t : Site}

theorem round_renamed (hv : e.vocabulary = .known) (hJ : J.Uniform)
    (hrenames : J.Renames e.documents u v) : Judge.Renames e.documents u v (e.round J) := by
  intro s t hst hreads
  by_cases hshape : s.schema.IsSchema
  · obtain ⟨node, hs⟩ := hshape
    have ht : t.schema = .obj node := hst.schema ▸ hs
    by_cases hne : node = []
    · subst hne
      rw [round_nil hJ hs, round_nil hJ ht]
      exact .refl .same _
    have hkind : s.kind = t.kind := hst.corresponds.kind
    cases hk : s.kind with
    | error f =>
      rw [round_kind hs hne hk, round_kind ht hne (hkind ▸ hk)]
      exact .refl .same _
    | ok kind =>
      obtain ⟨xs, -, happ⟩ := Keyword.applicable_known node kind
      have hbuild := Keyword.build_renamed hJ hrenames hst hs hreads xs
      rw [← happ, ← hv] at hbuild
      apply corresponds_round hJ
      -- either the first keyword to fail is the same, or the checkers find the same one by one
      rw [Checker.forSite_snd e.vocabulary hs hne hk,
        Checker.forSite_snd e.vocabulary ht hne (hkind ▸ hk)]
      apply Answer.Rel.ok
      generalize (Checker.build s (e.vocabulary.applicable (Members.keys node) kind)).2 = x,
        (Checker.build t (e.vocabulary.applicable (Members.keys node) kind)).2 = y at hbuild
      cases hbuild with
      | error p => exact Checker.unusable_renamed hst (some p.1) p.2
      | ok hcs =>
        rw [Checker.outcome_wrap e hJ, Checker.outcome_wrap e hJ]
        have hjoined := Checker.corresponds_allOf hJ hcs
        exact hjoined.andThen (Checker.descent_renamed hJ hrenames hst hs hk hreads)
  · have hshape' : ¬ t.schema.IsSchema := hst.schema ▸ hshape
    obtain ⟨notes, hsite⟩ := forSite_shape (e := e) hshape
    obtain ⟨notes', hsite'⟩ := forSite_shape (e := e) hshape'
    rw [← hst.schema] at hsite'
    apply corresponds_round hJ
    rw [hsite, hsite']
    exact .ok (Checker.unusable_renamed hst none _)

/-- However deep it goes, judging finds the same from both addresses. -/
theorem judge_renames (hv : e.vocabulary = .known) (fuel : Nat) :
    Judge.Renames e.documents u v (e.judge fuel) := by
  -- on the fuel: a round finds the same if its judge does
  induction fuel with
  | zero => exact fun _ _ _ _ => Step.corresponds_same (by simp [judge])
  | succ fuel ih => exact round_renamed hv (uniform_judge e fuel) ih

theorem judgeSite_renames (hv : e.vocabulary = .known) :
    Judge.Renames e.documents u v e.judgeSite := by
  intro s t hst hreads
  have hfuel : e.fuelFor s = e.fuelFor t := by
    cases hst
    rfl
  unfold judgeSite
  rw [hfuel]
  exact judge_renames hv _ s t hst hreads

end Setting

/-- Results of one verdict, with corresponding messages, and with the same of them faults. -/
structure Result.Renamed (u v : String) (r r' : Result) : Prop where
  isValid : r.isValid = r'.isValid
  messages : List.Forall₂ (Diagnostic.Renamed u v) r.report.messages r'.report.messages
  faults : List.Forall₂ (Diagnostic.Renamed u v) r.faults.report.messages r'.faults.report.messages

namespace Validator

variable {schema : Value} {e : Setting}

/-- What is left out below the threshold, and what is a fault, does not depend on the address. -/
theorem resultOf_renamed (ho : e.options.collapseRepeats = false) (valid : Bool)
    {found found' : List Diagnostic} (h : List.Forall₂ (Diagnostic.Renamed u v) found found')
    (l l' : Location) :
    ((⟨schema, e, l⟩ : Validator).resultOf valid found).Renamed u v
      ((⟨schema, e, l'⟩ : Validator).resultOf valid found') := by
  have hlevel {d d' : Diagnostic} (hd : d.Renamed u v d') :
      d.level.reaches e.options.reportLevel ↔ d'.level.reaches e.options.reportLevel := by
    cases hd <;> rfl
  have hfault {d d' : Diagnostic} (hd : d.Renamed u v d') :
      d.failedAt.isSome ↔ d'.failedAt.isSome := by
    cases hd with
    | same => rfl
    | root d p =>
      have hsame : Diagnostic.isConstruction { d with schema := some ⟨u, p⟩ } =
          Diagnostic.isConstruction { d with schema := some ⟨v, p⟩ } := rfl
      simp only [Diagnostic.failedAt, hsame]
      split <;> rfl
  have hall := FaultReport.gathered_all found ⟨e.options.reportLevel, []⟩
  have hall' := FaultReport.gathered_all found' ⟨e.options.reportLevel, []⟩
  refine ⟨rfl, ?_, ?_⟩
  · simp only [resultOf, ho, hall.target, hall'.target, Report.logAll_eq, List.nil_append]
    exact List.rel_filter (fun _ _ hd => hlevel hd) h
  · simp only [resultOf, ho, hall.faults, hall'.faults]
    exact List.rel_filter (fun _ _ hd => hfault hd) h

/-- Validators of one schema from two addresses come to the same if its references read alike. -/
theorem validate_renamed (hv : e.vocabulary = .known) (ho : e.options.collapseRepeats = false)
    (hreads : e.documents.ReadsAlike u v schema) (x : Value) :
    Answer.Rel (Result.Renamed u v) ((⟨schema, e, ⟨u, .root⟩⟩ : Validator).validate x).2
      ((⟨schema, e, ⟨v, .root⟩⟩ : Validator).validate x).2 := by
  have hsite : ((⟨schema, e, ⟨u, .root⟩⟩ : Validator).site x).Renamed u v
      ((⟨schema, e, ⟨v, .root⟩⟩ : Validator).site x) :=
    .root { schema, value := x, pooled := e.options.isParallel } .root
  obtain ⟨hmessages, hverdict⟩ := Setting.judgeSite_renames hv _ _ hsite hreads
  rw [validate_eq_map, validate_eq_map, findings_eq, findings_eq]
  simp only [Outcome.onto, Report.logAll_debug, List.nil_append]
  rw [hverdict]
  cases (e.judgeSite ((⟨schema, e, ⟨v, .root⟩⟩ : Validator).site x)).outcome.verdict with
  | error f => exact .error f
  | ok valid => exact .ok (resultOf_renamed ho valid hmessages _ _)

/-- What a value comes to for a schema that is judged from the empty address, against documents that
were made apart. -/
def validateGiven (schema : Value) (o : Options) (uri : String) (store : Members) (x : Value) :
    Except Fault Result := do
  let d ← Documents.make schema uri store
  let v ← make schema .known o (some d) "" []
  (v.validate x).2

/-- What a value comes to for a schema whose validator makes the documents. -/
def validateMade (schema : Value) (o : Options) (uri : String) (store : Members) (x : Value) :
    Except Fault Result := do
  let v ← make schema .known o none uri store
  (v.validate x).2

variable {o : Options} {uri : String} {store : Members} {d : Documents}

theorem validateGiven_of_make (h : Documents.make schema uri store = .ok d) (x : Value) :
    validateGiven schema o uri store x =
      ((⟨schema, ⟨.known, d, o, .report⟩, ⟨"", .root⟩⟩ : Validator).validate x).2 := by
  simp only [validateGiven, h]
  rfl

theorem validateMade_of_make (h : Documents.make schema uri store = .ok d) (x : Value) :
    validateMade schema o uri store x =
      ((⟨schema, ⟨.known, d, o, .report⟩, ⟨d.baseUri, .root⟩⟩ : Validator).validate x).2 := by
  simp only [validateMade, make, h]
  rfl

/-- Documents that cannot be made fail in the same way wherever they are made. -/
theorem error_of_make {f : Fault} (h : Documents.make schema uri store = .error f) (x : Value) :
    validateGiven schema o uri store x = .error f ∧ validateMade schema o uri store x = .error f := by
  constructor
  · simp only [validateGiven, h]
    rfl
  · simp only [validateMade, make, h]
    rfl

/-- A value of the wrong type is told with the address from which the schema is judged. -/
theorem exists_message (d : Documents) (base : String) :
    ∃ r, ((⟨.obj [("type", .str "string")], ⟨.known, d, {}, .report⟩, ⟨base, .root⟩⟩ :
        Validator).validate (.int 1)).2 = .ok r ∧
      r.report.messages.map (·.schema) = [some ⟨base, .root⟩] := by
  let v : Validator :=
    ⟨.obj [("type", .str "string")], ⟨.known, d, {}, .report⟩, ⟨base, .root⟩⟩
  obtain ⟨n, hn⟩ : ∃ n, v.setting.fuelFor (v.site (.int 1)) = n + 1 := by
    apply Nat.exists_eq_add_one.mpr
    unfold Setting.fuelFor
    positivity
  have hfound : v.findings (.int 1) =
      v.setting.judge (n + 1) (v.site (.int 1)) ⟨⟨.debug, []⟩, []⟩ := by
    rw [← hn]
    rfl
  have hverdict : (v.findings (.int 1)).2 = .ok false := by
    rw [hfound]
    rfl
  refine ⟨v.resultOf false (v.findings (.int 1)).1.report.messages, ?_, ?_⟩
  · show (v.validate (.int 1)).2 = _
    unfold validate
    rw [show v.findings (.int 1) = (_, .ok false) from Prod.ext rfl hverdict]
  · rw [hfound]
    rfl

end Validator

/-- Results of one verdict and the same messages. -/
structure Result.Agrees (r r' : Result) : Prop where
  isValid : r.isValid = r'.isValid
  messages : r.report.messages = r'.report.messages

namespace Documents

variable {schema : Value} {uri : String} {store : Members} {d : Documents}

theorem get?_baseUri (h : make schema uri store = .ok d) :
    d.entries.get? d.baseUri = some schema := by
  obtain ⟨entries, _, h⟩ := Answer.do_ok.mp h
  obtain ⟨base, _, h⟩ := Answer.do_ok.mp h
  obtain rfl := Except.ok.inj h
  exact Members.get?_put entries base schema

/-- Neither that documents can be made nor the address of the root depends on what the root is. -/
theorem exists_make (h : make schema uri store = .ok d) (root : Value) :
    ∃ d', make root uri store = .ok d' ∧ d'.baseUri = d.baseUri := by
  obtain ⟨entries, hentries, h⟩ := Answer.do_ok.mp h
  obtain ⟨base, hbase, h⟩ := Answer.do_ok.mp h
  obtain rfl := Except.ok.inj h
  refine ⟨⟨base, Members.put entries base root⟩, ?_, rfl⟩
  simp only [make, hentries, hbase]
  rfl

/-- A fragment leads nowhere from the empty address if nothing is registered there. -/
theorem fragment_unresolved (h : d.entries.get? "" = none) (p q : Pointer) :
    d.resolve (.str ("#" ++ Uri.percentEncoded p.text)) ⟨"", q⟩ = .error (.noDocument "") := by
  rw [resolve_eq, destination_fragment (.inl rfl) (by simp) (isPlain_percentEncoded _)]
  simp only [Except.bind, h]

end Documents

namespace Validator

variable {schema : Value} {uri : String} {store : Members} {d : Documents}

theorem baseUri_of_agrees
    (h : ∀ schema x, Answer.Rel Result.Agrees (validateGiven schema {} uri store x)
      (validateMade schema {} uri store x))
    (hd : Documents.make schema uri store = .ok d) : d.baseUri = "" := by
  obtain ⟨d', hd', hbase⟩ := Documents.exists_make hd (.obj [("type", .str "string")])
  obtain ⟨r, hr, hgiven⟩ := exists_message d' ""
  obtain ⟨r', hr', hmade⟩ := exists_message d' d'.baseUri
  have hagrees := h (.obj [("type", .str "string")]) (.int 1)
  rw [validateGiven_of_make hd', validateMade_of_make hd', hr, hr'] at hagrees
  -- the one message of either is told with its own address
  rw [hagrees.of_ok.messages, hmade] at hgiven
  have haddress : d'.baseUri = "" :=
    congrArg Location.uri (Option.some.inj (List.head_eq_of_cons_eq hgiven))
  rw [← hbase, haddress]

/-- Documents made apart serve a schema as those that its validator makes, whatever the schema and
the value, exactly if their address is empty. At any other address the schema is judged from a place
where its own fragments lead nowhere, unless a document is registered there. As long as every
reference reads alike from both places, the two still find the same, up to the address that they
tell it with. -/
theorem given_agrees_iff (uri : String) (store : Members) :
    ((∀ schema x, Answer.Rel Result.Agrees (validateGiven schema {} uri store x)
        (validateMade schema {} uri store x)) ↔
      ∀ schema d, Documents.make schema uri store = .ok d → d.baseUri = "") ∧
    ∀ (schema : Value) (o : Options) (x : Value),
      (∀ f, Documents.make schema uri store = .error f →
        validateGiven schema o uri store x = .error f ∧
          validateMade schema o uri store x = .error f) ∧
      ∀ d, Documents.make schema uri store = .ok d →
        (d.baseUri = "" → validateGiven schema o uri store x = validateMade schema o uri store x) ∧
        (o.collapseRepeats = false → d.ReadsAlike "" d.baseUri schema →
          Answer.Rel (Result.Renamed "" d.baseUri) (validateGiven schema o uri store x)
            (validateMade schema o uri store x)) ∧
        (Uri.KeepsFragments d.baseUri → ∀ (p q : Pointer) (v : Value), p.resolve schema = .ok v →
          d.resolve (.str ("#" ++ Uri.percentEncoded p.text)) ⟨d.baseUri, q⟩ =
            .ok (⟨d.baseUri, p⟩, v)) ∧
        (d.entries.get? "" = none → ∀ p q : Pointer,
          d.resolve (.str ("#" ++ Uri.percentEncoded p.text)) ⟨"", q⟩ =
            .error (.noDocument "")) := by
  have hsame (schema : Value) (o : Options) (x : Value) (d : Documents)
      (hd : Documents.make schema uri store = .ok d) (hbase : d.baseUri = "") :
      validateGiven schema o uri store x = validateMade schema o uri store x := by
    rw [validateGiven_of_make hd, validateMade_of_make hd, hbase]
  refine ⟨⟨fun h schema d => baseUri_of_agrees h, fun h schema x => ?_⟩, fun schema o x => ?_⟩
  · cases hd : Documents.make schema uri store with
    | error f =>
      rw [(error_of_make hd x).1, (error_of_make hd x).2]
      exact .error f
    | ok d =>
      rw [hsame schema {} x d hd (h schema d hd)]
      cases validateMade schema {} uri store x with
      | error f => exact .error f
      | ok r => exact .ok ⟨rfl, rfl⟩
  · refine ⟨fun f hf => error_of_make hf x, fun d hd => ⟨hsame schema o x d hd, ?_, ?_, ?_⟩⟩
    · intro ho hreads
      rw [validateGiven_of_make hd, validateMade_of_make hd]
      exact validate_renamed rfl ho hreads x
    · intro hkeeps
      exact (Documents.fragment_resolves_iff hd (Documents.get?_baseUri hd)).mpr hkeeps
    · exact Documents.fragment_unresolved

/-- Judged from the empty address, a schema cannot reach its own definitions, which it reaches
from the address of the documents. -/
theorem definition_out_of_reach :
    let schema : Value := .obj [("properties", .obj [("a", .obj [("$ref", .str "#/d")])]),
      ("d", .obj [("type", .str "string")])]
    let x : Value := .obj [("a", .str "x")]
    (validateGiven schema {} "http://x/s" [] x).toOption.map (·.isValid) = some false ∧
      (validateMade schema {} "http://x/s" [] x).toOption.map (·.isValid) = some true ∧
      ¬ Answer.Rel Result.Agrees (validateGiven schema {} "http://x/s" [] x)
        (validateMade schema {} "http://x/s" [] x) := by
  intro schema x
  have hgiven : (validateGiven schema {} "http://x/s" [] x).toOption.map (·.isValid) =
      some false := by
    decide +kernel
  have hmade : (validateMade schema {} "http://x/s" [] x).toOption.map (·.isValid) =
      some true := by
    decide +kernel
  refine ⟨hgiven, hmade, fun h => ?_⟩
  obtain ⟨r, hr, hno⟩ := Option.map_eq_some_iff.mp hgiven
  obtain ⟨r', hr', hyes⟩ := Option.map_eq_some_iff.mp hmade
  rw [Answer.ok_of_toOption hr, Answer.ok_of_toOption hr'] at h
  have hsame := h.of_ok.isValid
  rw [hno, hyes] at hsame
  cases hsame

end Validator

end Conform
