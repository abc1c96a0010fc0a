import Conform.Proofs.Counterparts
import Conform.Proofs.Keywords
import Conform.Proofs.Related
import Mathlib.Data.List.Find

/-!
Judging rearranged nodes of rearranged values. Whatever keyword is asked, both sides say the same
when both answer, and complain at the same places; so a round of judging matches a round on the
other side if the judges of the sites below do.
-/
namespace Conform

open Value Value.Rearranged

/-- Sites at one place whose nodes and values are rearrangements of each other. -/
structure Site.Rearranged (s t : Site) : Prop where
  schema : s.schema.Rearranged t.schema
  value : s.value.Rearranged t.value
  path : s.path = t.path
  location : s.location = t.location
  trail : s.trail = t.trail

/-- Judges that match wherever sites are rearrangements of each other. -/
def Judge.Matches (J K : Judge) : Prop :=
  ∀ s t, s.Rearranged t → (J s).outcome.Matches (K t).outcome

namespace Site.Rearranged

variable {s t : Site} (h : s.Rearranged t)

include h

theorem gist_eq (keyword : Option String) (level : Severity) (domain : Domain) :
    s.gist keyword level domain = t.gist keyword level domain := by
  simp only [Site.gist, h.path, h.location]

theorem kind_eq : s.kind = t.kind := h.value.classify_eq

theorem under {v w : Value} (hvw : v.Rearranged w) (steps : List Token) :
    (s.under v (s.location.append steps)).Rearranged (t.under w (t.location.append steps)) :=
  ⟨hvw, h.value, h.path, congrArg (Location.append · steps) h.location, h.trail⟩

theorem scratch {v w : Value} (hvw : v.Rearranged w) (steps : List Token) :
    (s.scratch v (s.location.append steps)).Rearranged (t.scratch w (t.location.append steps)) :=
  ⟨hvw, h.value, h.path, congrArg (Location.append · steps) h.location, h.trail⟩

theorem follow {v w : Value} (hvw : v.Rearranged w) (l : Location) :
    (s.follow v l).Rearranged (t.follow w l) := by
  refine ⟨hvw, h.value, h.path, rfl, ?_⟩
  simp only [Site.follow, h.trail, h.path]

theorem child {u v x y : Value} (huv : u.Rearranged v) (hxy : x.Rearranged y) (token : Token)
    (steps : List Token) : (s.child u x token steps).Rearranged (t.child v y token steps) :=
  ⟨huv, hxy, congrArg (Pointer.append · [token]) h.path,
    congrArg (Location.append · steps) h.location, rfl⟩

end Site.Rearranged

namespace Outcome

theorem matches_pass : pass.Matches pass := matches_of_eq rfl rfl

/-- One error on each side, of the same gist. -/
theorem matches_fail {d d' : Diagnostic} (h : d.gist = d'.gist) :
    (Step.fail d).outcome.Matches (Step.fail d').outcome := by
  rw [Step.outcome_fail, Step.outcome_fail]
  exact matches_of_eq rfl (congrArg (fun g => [g]) h)

theorem matches_abort (f : Fault) (p : Outcome) : (Step.abort f).outcome.Matches p := by
  rw [Step.outcome_abort]
  exact matches_of_error rfl

theorem matches_answer (b : Bool) : (Step.answer b).outcome.Matches (Step.answer b).outcome :=
  matches_of_eq rfl rfl

end Outcome

namespace Logic

variable {e e' : Setting} {J K : Judge} {s t : Site}

theorem isOfType_eq {v w : Value} (h : v.Rearranged w) (names : List String) :
    isOfType v names = isOfType w names := by
  induction names with
  | nil => rfl
  | cons name names ih =>
    have hholds : Kind.holds (.str name) v = Kind.holds (.str name) w := by
      simp only [Kind.holds, h.classify_eq]
    rw [isOfType, isOfType, hholds, ih]

variable (hJ : J.Uniform) (hK : K.Uniform) (hJK : J.Matches K)

include hJ hK hJK

/-- Trials go equally far, and find the same on the way. -/
theorem tries_matches {ss ts : List Site} (h : List.Forall₂ Site.Rearranged ss ts) {b c : Bool}
    {reports reports' : List Report} (hs : (tries J ss []).2 = .ok (b, reports))
    (ht : (tries K ts []).2 = .ok (c, reports')) :
    b = c ∧ ((reports.flatMap (·.messages)).map Diagnostic.gist).Perm
      ((reports'.flatMap (·.messages)).map Diagnostic.gist) := by
  induction h generalizing b c reports reports' with
  | nil =>
    obtain ⟨rfl, rfl⟩ := Prod.mk.inj (Except.ok.inj hs)
    obtain ⟨rfl, rfl⟩ := Prod.mk.inj (Except.ok.inj ht)
    exact ⟨rfl, .refl _⟩
  | @cons s t ss ts hst _ ih =>
    rw [tries_cons hJ] at hs
    rw [tries_cons hK] at ht
    obtain ⟨x, hx, hs⟩ := Answer.bind_ok.mp hs
    obtain ⟨y, hy, ht⟩ := Answer.bind_ok.mp ht
    obtain ⟨rfl, hgists⟩ := hJK s t hst x y hx hy
    cases x with
    | true =>
      obtain ⟨rfl, rfl⟩ := Prod.mk.inj (Except.ok.inj hs)
      obtain ⟨rfl, rfl⟩ := Prod.mk.inj (Except.ok.inj ht)
      refine ⟨rfl, ?_⟩
      simp only [List.flatMap_cons, List.flatMap_nil, List.append_nil]
      exact hgists
    | false =>
      obtain ⟨⟨b, later⟩, hrest, hp⟩ := Answer.map_ok.mp hs
      obtain ⟨⟨c, later'⟩, hrest', hp'⟩ := Answer.map_ok.mp ht
      obtain ⟨rfl, rfl⟩ := Prod.mk.inj hp
      obtain ⟨rfl, rfl⟩ := Prod.mk.inj hp'
      obtain ⟨hbc, hlater⟩ := ih hrest hrest'
      refine ⟨hbc, ?_⟩
      simp only [List.flatMap_cons, List.map_append]
      exact hgists.append hlater

theorem matching_matches (hst : s.Rearranged t) {keyword : String} {names : List String}
    {parts parts' : List Part} (hparts : List.Forall₂ Part.Rearranged parts parts') {b c : Bool}
    {reports reports' : List Report}
    (hs : (matching J keyword names parts s []).2 = .ok (b, reports))
    (ht : (matching K keyword names parts' t []).2 = .ok (c, reports')) :
    b = c ∧ ((reports.flatMap (·.messages)).map Diagnostic.gist).Perm
      ((reports'.flatMap (·.messages)).map Diagnostic.gist) := by
  unfold matching at hs ht
  rw [isOfType_eq hst.value] at hs
  cases hof : isOfType t.value names with
  | error f =>
    rw [hof] at hs
    cases hs
  | ok found =>
    rw [hof] at hs ht
    cases found with
    | true =>
      obtain ⟨rfl, rfl⟩ := Prod.mk.inj (Except.ok.inj hs)
      obtain ⟨rfl, rfl⟩ := Prod.mk.inj (Except.ok.inj ht)
      exact ⟨rfl, .refl _⟩
    | false =>
      refine tries_matches hJ hK hJK ?_ hs ht
      rw [List.forall₂_map_left_iff, List.forall₂_map_right_iff]
      refine hparts.imp fun p q hpq => ?_
      unfold partLocation
      rw [hpq.position]
      exact hst.scratch hpq.schema _

/-- Types hold or fail alike, and with them their trials. -/
theorem types_matches (hst : s.Rearranged t) {keyword : String} {names : List String}
    {parts parts' : List Part} (hparts : List.Forall₂ Part.Rearranged parts parts')
    (negated : Bool) : (judgeTypes J keyword names parts negated s).outcome.Matches
      (judgeTypes K keyword names parts' negated t).outcome := by
  rw [Step.outcome_eq (judgeTypes_onto hJ keyword names parts negated s),
    Step.outcome_eq (judgeTypes_onto hK keyword names parts' negated t)]
  unfold typesOutcome
  rcases hs : matching J keyword names parts s [] with ⟨notes, f | ⟨b, reports⟩⟩
  · exact Outcome.matches_of_error rfl
  · rcases ht : matching K keyword names parts' t [] with ⟨notes', f | ⟨c, reports'⟩⟩
    · exact Outcome.matches_of_error_right rfl
    · obtain ⟨rfl, hgists⟩ :=
        matching_matches hJ hK hJK hst hparts (congrArg Prod.snd hs) (congrArg Prod.snd ht)
      rw [hst.kind_eq]
      cases t.kind with
      | error f => exact Outcome.matches_of_error rfl
      | ok found =>
        have hgist : s.gist keyword = t.gist keyword := hst.gist_eq _ _ _
        cases negated with
        | true =>
          cases b with
          | true => exact Outcome.matches_of_eq rfl (congrArg (fun g => [g]) hgist)
          | false => exact Outcome.matches_of_eq rfl rfl
        | false =>
          cases b with
          | true => exact Outcome.matches_of_eq rfl rfl
          | false =>
            intro x y hx hy
            refine ⟨Except.ok.inj (hx.symm.trans hy), ?_⟩
            exact (hgists.cons (s.gist keyword)).trans (.of_eq (congrArg (· :: _) hgist))

theorem parts_matches (hst : s.Rearranged t) {parts parts' : List Part}
    (hparts : List.Forall₂ Part.Rearranged parts parts') :
    (judgeParts J "extends" parts s).outcome.Matches
      (judgeParts K "extends" parts' t).outcome := by
  unfold judgeParts
  rw [Step.outcome_all (hJ.map _ _), Step.outcome_all (hK.map _ _), List.map_map, List.map_map]
  refine Outcome.matches_all ((Paired.of_forall₂ hparts).map fun p q hpq => ?_)
  have hsite := hst.under hpq.schema (.name "extends" :: (q.position.map Token.index).toList)
  rw [← hpq.position] at hsite
  simpa only [Function.comp_apply, partLocation, hpq.position] using hJK _ _ hsite

omit hJ hK hJK in
/-- A dependency on names asks for the same members, and complains at the same place. -/
theorem required_matches (hst : s.Rearranged t) {ms ns : Members} (hms : Matched ms ns)
    (d : String × List String) :
    (judgeRequired s ms d).outcome.Matches (judgeRequired t ns d).outcome := by
  have hmissing : missing ms d.2 = missing ns d.2 := by
    simp only [missing, hms.has_eq]
  unfold judgeRequired
  rw [hms.has_eq, hmissing]
  split
  · dsimp only
    split
    · exact Outcome.matches_answer true
    · exact Outcome.matches_fail (hst.gist_eq (some "dependencies") .error .validation)
  · exact Outcome.matches_answer true

omit hJ hK in
theorem dependent_matches (hst : s.Rearranged t) {ms ns : Members} (hms : Matched ms ns)
    {d d' : String × Value} (hd : d.1 = d'.1 ∧ d.2.Rearranged d'.2) :
    (judgeDependent J s ms d).outcome.Matches (judgeDependent K t ns d').outcome := by
  obtain ⟨name, x⟩ := d
  obtain ⟨_, y⟩ := d'
  obtain ⟨rfl, hxy⟩ := hd
  unfold judgeDependent
  rw [hms.has_eq]
  split
  · exact hJK _ _ (hst.under hxy _)
  · exact Outcome.matches_answer true

/-- Dependencies say the same in whatever order they stand. -/
theorem dependencies_matches (hst : s.Rearranged t)
    {required required' : List (String × List String)} {schemas schemas' : Members}
    (hrequired : Paired (· = ·) required required')
    (hschemas : Paired (fun d d' => d.1 = d'.1 ∧ d.2.Rearranged d'.2) schemas schemas') :
    (judgeDependencies J required schemas s).outcome.Matches
      (judgeDependencies K required' schemas' t).outcome := by
  unfold judgeDependencies
  cases hv : s.value with
  | obj ms =>
    obtain ⟨ns, ht, hms⟩ := (hv ▸ hst.value).of_obj
    rw [ht]
    dsimp only
    rw [Step.outcome_all (uniform_dependencySteps hJ required schemas s ms),
      Step.outcome_all (uniform_dependencySteps hK required' schemas' t ns), List.map_append,
      List.map_append, List.map_map, List.map_map, List.map_map, List.map_map]
    refine Outcome.matches_all (.append ?_ ?_)
    · refine hrequired.map ?_
      rintro d _ rfl
      exact required_matches hst hms d
    · exact hschemas.map fun d d' hd => dependent_matches hJK hst hms hd
  | arr xs =>
    obtain ⟨ys, ht, _⟩ := (hv ▸ hst.value).of_arr
    rw [ht]
    exact Outcome.matches_answer true
  | _ =>
    have ht := (hv ▸ hst.value).of_leaf rfl
    rw [ht]
    exact Outcome.matches_answer true

omit hJ hK in
/-- References lead to the same place, or fail in the same way. -/
theorem reference_matches (hloops : e.loops = e'.loops)
    (hd : e.documents.Rearranged e'.documents) (hst : s.Rearranged t) (ref : String) :
    (judgeReference e J ref s).outcome.Matches (judgeReference e' K ref t).outcome := by
  have hresolve := Documents.resolve_rel hd ref t.location
  unfold judgeReference
  rw [hst.location, hst.trail, hst.path, hloops]
  generalize e.documents.resolve (.str ref) t.location = a,
    e'.documents.resolve (.str ref) t.location = b at hresolve ⊢
  cases hresolve with
  | error f =>
    dsimp only
    split
    · exact Outcome.matches_fail (hst.gist_eq (some "$ref") .error .reference)
    · exact Outcome.matches_abort _ _
  | @ok r r' hr =>
    obtain ⟨l, v⟩ := r
    obtain ⟨_, w⟩ := r'
    obtain ⟨rfl, hvw⟩ := hr
    dsimp only
    split
    · split
      · exact Outcome.matches_abort _ _
      · exact Outcome.matches_fail (hst.gist_eq (some "$ref") .error .reference)
    · exact hJK _ _ (hst.follow hvw l)

end Logic

namespace Keyword

variable {e e' : Setting} {J K : Judge} {s t : Site} {node node' : Members} {kind : Kind}
  {k : Keyword}

theorem selected_eq (hn : Matched node node') (kind : Kind) :
    selected node kind = selected node' kind := by
  have hcontains (name : String) :
      (Members.keys node).contains name = (Members.keys node').contains name := by
    rw [Bool.eq_iff_iff, List.contains_iff_mem, List.contains_iff_mem, hn.keys.mem_iff]
  simp only [selected, hcontains]

/-- A keyword is refused in both nodes or in neither. -/
theorem refuses_eq (hn : Matched node node') (hsel : k ∈ selected node kind) :
    k.refuses node = k.refuses node' := by
  obtain ⟨⟨w, hw⟩, _⟩ := mem_selected.mp hsel
  obtain ⟨w', hw', hww'⟩ := some_of_rel (hn.get? k.name) hw
  have hiff : k.refuses node = false ↔ k.refuses node' = false := by
    rw [refuses_eq_false, refuses_eq_false, build_isOk hw, build_isOk hw']
    exact ⟨accepts_of_rearranged hn hww', accepts_of_rearranged hn.symm hww'.symm⟩
  rwa [Bool.eq_iff_iff, ← Bool.not_eq_false, ← Bool.not_eq_false (k.refuses node'), not_iff_not]

/-- A format that is not known in a node is not known in a rearrangement. -/
theorem unknownFormat_of_matched (hn : Matched node node') (hplain : k.isPlain) {b' : Built}
    {name : String} (hb : k.build node = .ok (.logic (.unknownFormat name)))
    (hb' : k.build node' = .ok b') : b' = .logic (.unknownFormat name) := by
  rcases built_of_plain hplain hb with h | ⟨_, _, h⟩ | ⟨rfl, _⟩
  · cases h
  · cases h
  · obtain ⟨format, hw, ⟨_, _, h⟩ | ⟨hnone, h⟩⟩ := formatBuilder_ok.mp hb
    · cases h
    · cases h
      obtain ⟨format', hw', h'⟩ := formatBuilder_ok.mp hb'
      obtain rfl := Value.str.inj (Option.some.inj (hw'.symm.trans (hn.get?_leaf rfl hw)))
      rcases h' with ⟨f, hf, _⟩ | ⟨_, h'⟩
      · rw [hnone] at hf
        cases hf
      · exact h'

/-- Keywords that look at the value alone say the same. -/
theorem plain_matches (hst : s.Rearranged t) (hn : Matched node node') (hk : s.kind = .ok kind)
    (hsel : k ∈ selected node kind) (hplain : k.isPlain) {b b' : Built}
    (hb : k.build node = .ok b) (hb' : k.build node' = .ok b') :
    (k.outcome e J s node).Matches (k.outcome e' K t node') := by
  obtain ⟨⟨w, hw⟩, hkind⟩ := mem_selected.mp hsel
  obtain ⟨w', hw', hww'⟩ := some_of_rel (hn.get? k.name) hw
  by_cases hformat : ∃ name, b = .logic (.unknownFormat name)
  · obtain ⟨name, rfl⟩ := hformat
    obtain rfl := unknownFormat_of_matched hn hplain hb hb'
    obtain ⟨hg, hv⟩ := gists_of_unknownFormat (e := e) (J := J) (s := s) hb
    obtain ⟨hg', hv'⟩ := gists_of_unknownFormat (e := e') (J := K) (s := t) hb'
    apply Outcome.matches_of_eq (hv.trans hv'.symm)
    rw [hg, hg', hst.gist_eq]
  · have hno : ∀ name, b ≠ .logic (.unknownFormat name) := not_exists.mp hformat
    have hno' : ∀ name, b' ≠ .logic (.unknownFormat name) := by
      rintro name rfl
      exact hno name (unknownFormat_of_matched hn.symm hplain hb' hb)
    intro y z hy hz
    -- the verdicts say whether the keyword holds, and it holds of both values or of neither
    have hyz : y = z := by
      have hk' : t.kind = .ok kind := hst.kind_eq ▸ hk
      rw [Bool.eq_iff_iff, judged_plain hplain hb hw hk hkind y hy,
        judged_plain hplain hb' hw' hk' hkind z hz]
      exact ⟨holds_of_rearranged hn hww' hst.value,
        holds_of_rearranged hn.symm hww'.symm hst.value.symm⟩
    subst hyz
    refine ⟨rfl, .of_eq ?_⟩
    rcases gists_of_plain (e := e) (J := J) (s := s) hplain hb hno with ⟨hv, hg⟩ | ⟨hv, hg⟩
    · rcases gists_of_plain (e := e') (J := K) (s := t) hplain hb' hno' with ⟨_, hg'⟩ | ⟨hv', _⟩
      · rw [hg, hg', hst.gist_eq]
      · exact absurd (hz.trans (hy.symm.trans hv)) hv'
    · rcases gists_of_plain (e := e') (J := K) (s := t) hplain hb' hno' with ⟨hv', _⟩ | ⟨_, hg'⟩
      · exact absurd (hy.trans (hz.symm.trans hv')) hv
      · rw [hg, hg']

/-- Every keyword says the same of rearranged sites if the judges do of those that come up. -/
theorem outcome_matches (hloops : e.loops = e'.loops)
    (hd : e.documents.Rearranged e'.documents) (hJ : J.Uniform) (hK : K.Uniform)
    (hJK : J.Matches K) (hst : s.Rearranged t) (hn : Matched node node')
    (hk : s.kind = .ok kind) (hsel : k ∈ selected node kind) {b b' : Built}
    (hb : k.build node = .ok b) (hb' : k.build node' = .ok b') :
    (k.outcome e J s node).Matches (k.outcome e' K t node') := by
  cases k with
  | dependencies =>
    obtain ⟨ms, required, schemas, hw, hlist, rfl⟩ := dependenciesBuilder_ok.mp hb
    obtain ⟨ns, required', schemas', hw', hlist', rfl⟩ := dependenciesBuilder_ok.mp hb'
    obtain ⟨y, hy, hwy⟩ := some_of_rel (hn.get? "dependencies") hw
    obtain rfl := Option.some.inj (hw'.symm.trans hy)
    obtain ⟨hrequired, hschemas⟩ := dependencies_of_matched (obj_obj.mp hwy) hlist hlist'
    simp only [outcome, hb, hb']
    exact Logic.dependencies_matches hJ hK hJK hst hrequired hschemas
  | disallow | type =>
    obtain ⟨names, parts, parts', hparts, rfl, rfl⟩ := types_of_matched hn hb hb'
    simp only [outcome, hb, hb']
    exact Logic.types_matches hJ hK hJK hst hparts _
  | extending =>
    obtain ⟨w, parts, hw, hparts, rfl⟩ := extendingBuilder_ok.mp hb
    obtain ⟨w', parts', hw', hparts', rfl⟩ := extendingBuilder_ok.mp hb'
    obtain ⟨y, hy, hwy⟩ := some_of_rel (hn.get? "extends") hw
    obtain rfl := Option.some.inj (hw'.symm.trans hy)
    have hrel := Expect.schemas_rel "extends" hwy
    rw [hparts, hparts'] at hrel
    simp only [outcome, hb, hb']
    exact Logic.parts_matches hJ hK hJK hst hrel.of_ok
  | reference =>
    obtain ⟨ref, hw, rfl⟩ := referenceBuilder_ok.mp hb
    obtain ⟨ref', hw', rfl⟩ := referenceBuilder_ok.mp hb'
    obtain rfl := Value.str.inj (Option.some.inj (hw'.symm.trans (hn.get?_leaf rfl hw)))
    simp only [outcome, hb, hb']
    exact Logic.reference_matches hJK hloops hd hst _
  | _ => exact plain_matches hst hn hk hsel rfl hb hb'

end Keyword

namespace Checker

variable {J K : Judge} {s t : Site} {node node' : Members} {kind : Kind}

/-- The children of rearranged sites can be paired, each under every schema for it. -/
theorem childOutcomes_paired (hJK : J.Matches K) (hst : s.Rearranged t)
    (hn : Matched node node')
    (h : ∀ c ∈ s.value.children, ∃ ts, ChildSchema.ofKind kind node c.1 = .ok ts)
    (h' : ∀ c ∈ t.value.children, ∃ ts, ChildSchema.ofKind kind node' c.1 = .ok ts) :
    Paired Outcome.Matches (childOutcomes J s kind node) (childOutcomes K t kind node') := by
  have hchildren : Paired (fun c c' => c.1 = c'.1 ∧ c.2.Rearranged c'.2 ∧
      Paired ChildSchema.Rearranged (ChildSchema.found kind node c.1)
        (ChildSchema.found kind node' c'.1)) s.value.children t.value.children := by
    apply hst.value.children_paired.mono
    rintro ⟨token, x⟩ hc ⟨_, y⟩ hc' ⟨rfl, hxy⟩
    obtain ⟨ts, hts⟩ := h _ hc
    obtain ⟨ts', hts'⟩ := h' _ hc'
    refine ⟨rfl, hxy, ?_⟩
    simp only [ChildSchema.found, hts, hts']
    exact ChildSchema.ofKind_paired hn hts hts'
  refine hchildren.flatMap ?_
  rintro ⟨token, x⟩ ⟨_, y⟩ ⟨rfl, hxy, hfound⟩
  refine hfound.map ?_
  rintro ⟨steps, u⟩ ⟨_, v⟩ ⟨rfl, huv⟩
  exact hJK _ _ (hst.child huv hxy token steps)

end Checker

namespace Setting

variable {e e' : Setting} {J K : Judge} {s t : Site} {node node' : Members} {kind : Kind}

/-- A node that cannot be used costs one error at its place, for the keyword if there is one. -/
theorem round_refused (hJ : J.Uniform) {notes : List Note} {keyword : Option String} {f : Fault}
    (h : Checker.forSite e.vocabulary s = (notes, .ok (Checker.unusable s keyword f).1)) :
    (e.round J s).outcome.verdict = .ok false ∧
      (e.round J s).outcome.gists = [s.gist keyword .error .construction] := by
  rw [outcome_round hJ h]
  simp only [Checker.unusable, Checker.run, Step.outcome_fail]
  exact ⟨rfl, rfl⟩

theorem round_first (hv : e.vocabulary = .known) (hJ : J.Uniform) (hs : s.schema = .obj node)
    (hk : s.kind = .ok kind) {k : Keyword}
    (hfirst : (Keyword.selected node kind).find? (Keyword.refuses node) = some k) :
    (e.round J s).outcome.verdict = .ok false ∧
      (e.round J s).outcome.gists = [s.gist k.name .error .construction] := by
  have hne : node ≠ [] := by
    rintro rfl
    obtain ⟨⟨w, hw⟩, _⟩ := Keyword.mem_selected.mp (List.mem_of_find?_eq_some hfirst)
    cases hw
  obtain ⟨notes, f, hsite⟩ := (forSite_known hv hs hne hk).2 k hfirst
  exact round_refused hJ hsite

/-- Nodes that can be used match part by part. -/
theorem built_matches (hv : e.vocabulary = .known) (hv' : e'.vocabulary = .known)
    (hloops : e.loops = e'.loops) (hd : e.documents.Rearranged e'.documents) (hJ : J.Uniform)
    (hK : K.Uniform) (hJK : J.Matches K) (hst : s.Rearranged t) (hn : Matched node node')
    (hs : s.schema = .obj node) (ht : t.schema = .obj node') (hk : s.kind = .ok kind)
    (hb : ∀ k ∈ Keyword.selected node kind, ∃ b, k.build node = .ok b)
    (hb' : ∀ k ∈ Keyword.selected node' kind, ∃ b, k.build node' = .ok b) :
    (e.round J s).outcome.Matches (e'.round K t).outcome := by
  intro y z hy hz
  have hk' : t.kind = .ok kind := hst.kind_eq ▸ hk
  obtain ⟨hanswers, hschemas, hgists, rfl⟩ := round_answered hv hJ hs hk hb hy
  obtain ⟨hanswers', hschemas', hgists', rfl⟩ := round_answered hv' hK ht hk' hb' hz
  rw [hgists, hgists']
  refine Outcome.perm_of_paired (.append ?_ ?_) hanswers hanswers'
  · rw [← Keyword.selected_eq hn kind] at hb' ⊢
    apply Paired.of_forall₂
    apply forall₂_map
    intro k hsel
    obtain ⟨b, hbuild⟩ := hb k hsel
    obtain ⟨b', hbuild'⟩ := hb' k hsel
    exact Keyword.outcome_matches hloops hd hJ hK hJK hst hn hk hsel hbuild hbuild'
  · exact Checker.childOutcomes_paired hJK hst hn hschemas hschemas'

/-- A round of judging matches another one, over rearranged documents, if the judges of the sites
below match. -/
theorem round_matches (hv : e.vocabulary = .known) (hv' : e'.vocabulary = .known)
    (hloops : e.loops = e'.loops) (hd : e.documents.Rearranged e'.documents) (hJ : J.Uniform)
    (hK : K.Uniform) (hJK : J.Matches K) : Judge.Matches (e.round J) (e'.round K) := by
  intro s t hst
  by_cases hshape : s.schema.IsSchema
  · obtain ⟨node, hs⟩ := hshape
    obtain ⟨node', ht, hn⟩ := (hs ▸ hst.schema).of_obj
    cases hk : s.kind with
    | error f =>
      by_cases hne : node = []
      · subst hne
        obtain rfl : node' = [] := List.eq_nil_of_length_eq_zero hn.paired.length_eq.symm
        rw [round_nil hJ hs, round_nil hK ht]
        exact Outcome.matches_pass
      · rw [round_kind hs hne hk]
        exact Outcome.matches_of_error rfl
    | ok kind =>
      have hrefuses : (Keyword.selected node kind).find? (Keyword.refuses node) =
          (Keyword.selected node' kind).find? (Keyword.refuses node') := by
        rw [← Keyword.selected_eq hn kind]
        exact List.find?_congr fun k hsel => Keyword.refuses_eq hn hsel
      cases hfirst : (Keyword.selected node kind).find? (Keyword.refuses node) with
      | some k =>
        obtain ⟨hverdict, hgists⟩ := round_first hv hJ hs hk hfirst
        obtain ⟨hverdict', hgists'⟩ := round_first hv' hK ht (hst.kind_eq ▸ hk)
          (hrefuses ▸ hfirst)
        apply Outcome.matches_of_eq (hverdict.trans hverdict'.symm)
        rw [hgists, hgists', hst.gist_eq]
      | none =>
        have hbuilt {node : Members}
            (h : (Keyword.selected node kind).find? (Keyword.refuses node) = none) :
            ∀ k ∈ Keyword.selected node kind, ∃ b, k.build node = .ok b := by
          intro k hsel
          have hno := List.find?_eq_none.mp h k hsel
          rwa [Bool.not_eq_true, Keyword.refuses_eq_false] at hno
        exact built_matches hv hv' hloops hd hJ hK hJK hst hn hs ht hk (hbuilt hfirst)
          (hbuilt (hrefuses ▸ hfirst))
  · have hshape' : ¬ t.schema.IsSchema := fun h => hshape (hst.schema.symm.isSchema h)
    obtain ⟨_, hsite⟩ := forSite_shape (e := e) hshape
    obtain ⟨_, hsite'⟩ := forSite_shape (e := e') hshape'
    obtain ⟨hverdict, hgists⟩ := round_refused hJ hsite
    obtain ⟨hverdict', hgists'⟩ := round_refused hK hsite'
    apply Outcome.matches_of_eq (hverdict.trans hverdict'.symm)
    rw [hgists, hgists', hst.gist_eq]

/-- However deep judging goes, it matches judging over rearranged documents. -/
theorem judge_matches (hv : e.vocabulary = .known) (hv' : e'.vocabulary = .known)
    (hloops : e.loops = e'.loops) (hd : e.documents.Rearranged e'.documents) (fuel : Nat) :
    (e.judge fuel).Matches (e'.judge fuel) := by
  induction fuel with
  | zero => exact fun _ _ _ => Outcome.matches_abort _ _
  | succ fuel ih =>
    exact round_matches hv hv' hloops hd (e.uniform_judge fuel) (e'.uniform_judge fuel) ih

/-- The fuel that a site is given does not matter, as long as it is judged to the end. -/
theorem judgeSite_matches (hv : e.vocabulary = .known) (hv' : e'.vocabulary = .known)
    (hloops : e.loops = e'.loops) (hd : e.documents.Rearranged e'.documents)
    (hst : s.Rearranged t) : (e.judgeSite s).outcome.Matches (e'.judgeSite t).outcome := by
  have hmore (e : Setting) (s : Site) {b : Bool} {n : Nat}
      (h : (e.judgeSite s).outcome.verdict = .ok b) (hn : e.fuelFor s ≤ n) :
      (e.judge n s) = e.judgeSite s := by
    apply e.judge_agrees hn s
    rw [show (e.judge (e.fuelFor s) s).outcome.verdict = .ok b from h]
    simp
  intro b c hb hc
  have hle := le_max_left (e.fuelFor s) (e'.fuelFor t)
  have hle' := le_max_right (e.fuelFor s) (e'.fuelFor t)
  have hmatches := judge_matches hv hv' hloops hd (max (e.fuelFor s) (e'.fuelFor t)) s t hst
  rw [hmore e s hb hle, hmore e' t hc hle'] at hmatches
  exact hmatches b c hb hc

end Setting

end Conform
