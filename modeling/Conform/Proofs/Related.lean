import Conform.Proofs.Faults
import Conform.Proofs.Fuel
import Conform.Proofs.Resolution

/-!
Related verdicts. A relation of verdicts that is kept by going on from them is kept by a round of
judging: if the judges of the sites below are so related at the sites that come up, the verdicts of
the rounds are. One of the two may follow returning references, and be at a site with another
trail; what it does where the other one finds a reference to return is then to be related as well.
-/
namespace Conform

theorem Documents.resolve_ne_referenceLoop (d : Documents) (ref : String) (base : Location) :
    d.resolve (.str ref) base ≠ .error .referenceLoop := by
  intro h
  have hunreadable : d.Unreadable base.uri ref .referenceLoop := unreadable_iff.mpr ⟨h, rfl⟩
  cases hunreadable with
  | text h =>
    obtain ⟨m, hm⟩ := badValue_of_destination h
    cases hm

/-- Judging raises no fault of its own for a returning reference. -/
theorem Escapes.ne_referenceLoop {d : Documents} {uri : String} {seen : List Location}
    {n v : Value} {f : Fault} (h : Escapes d uri seen n v f) : f ≠ .referenceLoop := by
  have hsearch {p : Pattern} {t : String} : p.search t ≠ .error .referenceLoop := by
    unfold Pattern.search
    split
    · split
      · simp
      · simp
    · simp
  have hcompile {source : String} : Pattern.compile source ≠ .error .referenceLoop := by
    unfold Pattern.compile
    split
    · simp
    · rename_i problem _
      cases problem with
      | malformed message place => cases place <;> simp [Pattern.Problem.toFault]
      | _ => simp [Pattern.Problem.toFault]
  induction h with
  | foreign hne hk =>
    rintro rfl
    unfold Kind.classify at hk
    split at hk
    · cases hk
    · split at hk
      · cases hk
      · cases hk
  | unwritten => simp
  | pattern hu hw hv hp hs =>
    rintro rfl
    exact hsearch hs
  | regex hu hw hv hp hf =>
    rintro rfl
    exact hcompile hp
  | name hu hv hm hn hp hs =>
    rintro rfl
    exact hsearch hs
  | unreadable hu hw hr =>
    rintro rfl
    exact Documents.resolve_ne_referenceLoop _ _ _ (Documents.unreadable_iff.mp hr).1
  | target hu hw hr hnew h ih => exact ih
  | extending hu hw ht h ih => exact ih
  | dependency hu hw hv hm hhas hs h ih => exact ih
  | trial hu hk hw hnames hl hpre h ih => exact ih
  | child hu hc hg h ih => exact ih

/-- Sites that differ at most in the references followed to get there, and in the pool. -/
def Site.Alike (s t : Site) : Prop := ∃ trail pooled, t = { s with trail, pooled }

theorem Site.Alike.refl (s : Site) : s.Alike s := ⟨s.trail, s.pooled, rfl⟩

theorem Site.Alike.schema {s t : Site} (h : s.Alike t) : t.schema = s.schema := by
  obtain ⟨_, _, rfl⟩ := h
  rfl

theorem Site.Alike.kind {s t : Site} (h : s.Alike t) : t.kind = s.kind := by
  obtain ⟨_, _, rfl⟩ := h
  rfl

/-- The setting that follows returning references. -/
def Setting.unguarded (e : Setting) : Setting := { e with loops := .follow }

/-- Relations of verdicts that hold of what does not come of a returning reference, and that are
kept when both sides go on in related ways. -/
structure Compatible (R : Except Fault Bool → Except Fault Bool → Prop) : Prop where
  refl : ∀ x, x ≠ .error .referenceLoop → R x x
  bind : ∀ {x y : Except Fault Bool} {f g : Bool → Except Fault Bool}, R x y →
    (∀ b, R (f b) (g b)) → R (x.bind f) (y.bind g)

namespace Compatible

variable {R : Except Fault Bool → Except Fault Bool → Prop} (hR : Compatible R)

include hR

theorem ok (b : Bool) : R (.ok b) (.ok b) := hR.refl _ (by simp)

theorem map {x y : Except Fault Bool} (h : R x y) (f : Bool → Bool) : R (x.map f) (y.map f) := by
  have hmap (x : Except Fault Bool) : x.map f = x.bind fun b => .ok (f b) := by cases x <;> rfl
  rw [hmap, hmap]
  exact hR.bind h fun b => hR.ok (f b)

theorem andThen {a b a' b' : Outcome} (ha : R a.verdict a'.verdict) (hb : R b.verdict b'.verdict) :
    R (a.andThen b).verdict (a'.andThen b').verdict := by
  rw [Outcome.verdict_andThen, Outcome.verdict_andThen]
  exact hR.bind ha fun x => hR.map hb (x && ·)

theorem all {os os' : List Outcome}
    (h : List.Forall₂ (fun a b => R a.verdict b.verdict) os os') :
    R (Outcome.all os).verdict (Outcome.all os').verdict := by
  induction h with
  | nil => exact hR.ok true
  | cons hab _ ih => exact hR.andThen hab ih

theorem steps {ss ts : List Step} (hss : ∀ s ∈ ss, s.Uniform) (hts : ∀ t ∈ ts, t.Uniform)
    (h : List.Forall₂ (fun s t => R s.outcome.verdict t.outcome.verdict) ss ts) :
    R (Step.all ss).outcome.verdict (Step.all ts).outcome.verdict := by
  rw [Step.outcome_all hss, Step.outcome_all hts]
  apply hR.all
  rw [List.forall₂_map_left_iff, List.forall₂_map_right_iff]
  exact h

end Compatible

namespace Logic

variable {R : Except Fault Bool → Except Fault Bool → Prop} {e : Setting} {J K : Judge}
  {s t : Site}

/-- Whether trials find one that holds. -/
def found (J : Judge) (ss : List Site) : Except Fault Bool := (tries J ss []).2.map Prod.fst

theorem found_cons (hJ : J.Uniform) (s : Site) (ss : List Site) : found J (s :: ss) =
    (J s).outcome.verdict.bind fun b => if b then .ok true else found J ss := by
  unfold found
  rw [tries_cons hJ]
  cases (J s).outcome.verdict with
  | error f => rfl
  | ok b =>
    cases b with
    | true => rfl
    | false => cases (tries J ss []).2 <;> rfl

/-- A type holds by name or by a trial. -/
theorem matching_found (keyword : String) (names : List String) (parts : List Part) :
    (matching J keyword names parts s []).2.map Prod.fst =
      (isOfType s.value names).bind fun b => if b then .ok true
        else found J (parts.map fun p => s.scratch p.schema (partLocation s keyword p)) := by
  unfold matching
  split
  · rename_i h
    rw [h]
    rfl
  · rename_i h
    rw [h]
    rfl
  · rename_i h
    rw [h]
    rfl

/-- A type says yes if it holds, and negated if it does not. -/
theorem verdict_types_eq (hJ : J.Uniform) {kind : Kind} (hk : s.kind = .ok kind)
    (keyword : String) (names : List String) (parts : List Part) (negated : Bool) :
    (judgeTypes J keyword names parts negated s).outcome.verdict =
      ((isOfType s.value names).bind fun b => if b then .ok true
        else found J (parts.map fun p => s.scratch p.schema (partLocation s keyword p))).map
          (· != negated) := by
  rw [← matching_found keyword names parts,
    Step.outcome_eq (judgeTypes_onto hJ keyword names parts negated s)]
  unfold typesOutcome
  rcases matching J keyword names parts s [] with ⟨notes, f | ⟨matched, trials⟩⟩
  · rfl
  · rw [hk]
    cases negated <;> cases matched <;> rfl

theorem isOfType_ne_referenceLoop {v : Value} {names : List String} {kind : Kind}
    (hk : Kind.classify v = .ok kind) : isOfType v names ≠ .error .referenceLoop := by
  have hholds (name : String) : Kind.holds (.str name) v ≠ .error .referenceLoop := by
    unfold Kind.holds Kind.parse
    split
    · simp
    · rw [hk]
      dsimp only
      split
      · simp
      · intro h
        cases h
  induction names with
  | nil => simp [isOfType]
  | cons name names ih =>
    intro h
    rcases Answer.do_error.mp h with h | ⟨b, _, h⟩
    · exact hholds name h
    · cases b with
      | true => cases h
      | false => exact ih h

theorem required_ne_referenceLoop (s : Site) (members : Members) (d : String × List String) :
    (judgeRequired s members d).outcome.verdict ≠ .error .referenceLoop := by
  unfold judgeRequired
  split
  · dsimp only
    split
    · simp
    · simp
  · simp

variable (hR : Compatible R) (hJ : J.Uniform) (hK : K.Uniform)

include hR hJ hK

theorem found_related {ss ts : List Site}
    (h : List.Forall₂ (fun a b => R (J a).outcome.verdict (K b).outcome.verdict) ss ts) :
    R (found J ss) (found K ts) := by
  induction h with
  | nil => exact hR.ok false
  | cons hab _ ih =>
    rw [found_cons hJ, found_cons hK]
    apply hR.bind hab
    intro b
    cases b with
    | true => exact hR.ok true
    | false => exact ih

theorem types_related (hst : s.Alike t) {kind : Kind} (hk : s.kind = .ok kind) {keyword : String}
    {names : List String} {parts : List Part} {negated : Bool}
    (hcalls : ∀ a ∈ (Logic.types keyword names parts negated).calls e s, ∀ b, a.Alike b →
      R (J a).outcome.verdict (K b).outcome.verdict) :
    R (judgeTypes J keyword names parts negated s).outcome.verdict
      (judgeTypes K keyword names parts negated t).outcome.verdict := by
  obtain ⟨trail, pooled, rfl⟩ := hst
  have hk' : ({ s with trail, pooled } : Site).kind = .ok kind := hk
  rw [verdict_types_eq hJ hk, verdict_types_eq hK hk']
  apply hR.map
  apply hR.bind (hR.refl _ (isOfType_ne_referenceLoop hk))
  intro b
  cases b with
  | true => exact hR.ok true
  | false =>
    apply found_related hR hJ hK
    apply forall₂_map
    intro p hp
    exact hcalls _ (List.mem_map.mpr ⟨p, hp, rfl⟩) _ ⟨trail, false, rfl⟩

theorem parts_related (hst : s.Alike t) {parts : List Part}
    (hcalls : ∀ a ∈ (Logic.extending parts).calls e s, ∀ b, a.Alike b →
      R (J a).outcome.verdict (K b).outcome.verdict) :
    R (judgeParts J "extends" parts s).outcome.verdict
      (judgeParts K "extends" parts t).outcome.verdict := by
  obtain ⟨trail, pooled, rfl⟩ := hst
  apply hR.steps (hJ.map _ _) (hK.map _ _)
  apply forall₂_map
  intro p hp
  exact hcalls _ (List.mem_map.mpr ⟨p, hp, rfl⟩) _ ⟨trail, pooled, rfl⟩

theorem dependencies_related (hst : s.Alike t) {required : List (String × List String)}
    {schemas : Members} (hcalls : ∀ a ∈ (Logic.dependencies required schemas).calls e s, ∀ b,
      a.Alike b → R (J a).outcome.verdict (K b).outcome.verdict) :
    R (judgeDependencies J required schemas s).outcome.verdict
      (judgeDependencies K required schemas t).outcome.verdict := by
  obtain ⟨trail, pooled, rfl⟩ := hst
  unfold judgeDependencies
  dsimp only
  split
  · rename_i members hv
    apply hR.steps (uniform_dependencySteps hJ required schemas s members)
      (uniform_dependencySteps hK required schemas _ members)
    apply List.rel_append
    · apply forall₂_map
      intro d _
      exact hR.refl _ (required_ne_referenceLoop s members d)
    · apply forall₂_map
      intro d hd
      unfold judgeDependent
      split
      · rename_i hhas
        refine hcalls _ ?_ _ ⟨trail, pooled, rfl⟩
        simp only [calls, hv]
        exact List.mem_map.mpr ⟨d, List.mem_filter.mpr ⟨hd, hhas⟩, rfl⟩
      · exact hR.refl _ (by simp)
  · exact hR.refl _ (by simp)

omit hJ hK in
theorem reference_related (hst : s.Alike t) {ref : String}
    (hcalls : ∀ a ∈ (Logic.reference ref).calls e s, ∀ b, a.Alike b →
      R (J a).outcome.verdict (K b).outcome.verdict)
    (hloop : ∀ l target, e.documents.resolve (.str ref) s.location = .ok (l, target) →
      e.loops ≠ .follow → (l, s.path) ∈ s.trail →
      R (judgeReference e J ref s).outcome.verdict (K (t.follow target l)).outcome.verdict) :
    R (judgeReference e J ref s).outcome.verdict
      (judgeReference e.unguarded K ref t).outcome.verdict := by
  obtain ⟨trail, pooled, rfl⟩ := hst
  cases hr : e.documents.resolve (.str ref) s.location with
  | error f =>
    have hsame : judgeReference e.unguarded K ref { s with trail, pooled } =
        judgeReference e J ref s := by
      simp only [judgeReference, Setting.unguarded, hr]
      rfl
    rw [hsame]
    apply hR.refl
    rw [outcome_reference_error hr]
    split
    · simp
    · rintro h
      obtain rfl := Except.error.inj h
      exact Documents.resolve_ne_referenceLoop _ _ _ hr
  | ok found =>
    obtain ⟨l, target⟩ := found
    have hfollow : judgeReference e.unguarded K ref { s with trail, pooled } =
        K (({ s with trail, pooled } : Site).follow target l) := by
      simp only [judgeReference, Setting.unguarded, hr]
      rfl
    rw [hfollow]
    by_cases hback : e.loops ≠ .follow ∧ (l, s.path) ∈ s.trail
    · exact hloop l target hr hback.1 hback.2
    · have hnew : ¬ (e.loops != .follow && s.trail.contains (l, s.path)) = true := by
        simpa using hback
      have hgo : judgeReference e J ref s = J (s.follow target l) := by
        simp only [judgeReference, hr, if_neg hnew]
      rw [hgo]
      apply hcalls
      · simp only [calls, hr, if_neg hnew, List.mem_singleton]
      · exact ⟨trail ++ [(l, s.path)], pooled, rfl⟩

end Logic

namespace Keyword

variable {R : Except Fault Bool → Except Fault Bool → Prop} {e : Setting} {J K : Judge}
  {s t : Site} {node : Members} {kind : Kind} {k : Keyword}

theorem finding_ne_referenceLoop {test : Test} (hs : s.schema = .obj node)
    (hk : s.kind = .ok kind) (hu : Usable node s.value) (hsel : k ∈ selected node kind)
    (hb : k.build node = .ok (asTest test)) : test.finding s ≠ .error .referenceLoop := by
  intro h
  obtain ⟨⟨w, hw⟩, hkind⟩ := mem_selected.mp hsel
  -- a test judges no other node, so whoever judges these will do
  obtain ⟨O, hO, hmeans, honly⟩ := Setting.exists_oracle {}
  let e : Setting := ⟨.known, {}, {}, .report⟩
  have hfresh : test.finding { s with trail := [] } = .error .referenceLoop := by
    rw [← h]
    cases test <;> rfl
  have hfail : (k.outcome e O { s with trail := [] } node).verdict = .error .referenceLoop := by
    simp only [outcome, hb, asTest]
    exact Logic.verdict_judgeTest_error.mpr hfresh
  have hpath : Site.AtPath { s with trail := [] } := .of_trail_eq_nil rfl
  exact (escapes_of_error hO hmeans honly rfl hpath hk hs hu hb hw hkind hfail).ne_referenceLoop rfl

theorem outcome_related (hR : Compatible R) (hJ : J.Uniform) (hK : K.Uniform) (hst : s.Alike t)
    (hs : s.schema = .obj node) (hk : s.kind = .ok kind) (hu : Usable node s.value)
    (hsel : k ∈ selected node kind)
    (hcalls : ∀ l, k.build node = .ok (.logic l) → ∀ a ∈ l.calls e s, ∀ b, a.Alike b →
      R (J a).outcome.verdict (K b).outcome.verdict)
    (hloop : ∀ ref l target, e.documents.resolve (.str ref) s.location = .ok (l, target) →
      e.loops ≠ .follow → (l, s.path) ∈ s.trail →
      R (Logic.judgeReference e J ref s).outcome.verdict (K (t.follow target l)).outcome.verdict) :
    R (k.outcome e J s node).verdict (k.outcome e.unguarded K t node).verdict := by
  unfold outcome
  split
  · rename_i l hb
    have hcalls := hcalls l hb
    generalize hbuilt : Built.logic l = b at hb
    cases makes_of_build hb with
    | always => cases hbuilt
    | test test =>
      obtain rfl := Built.logic.inj hbuilt
      obtain ⟨trail, pooled, rfl⟩ := hst
      have hsame : test.finding { s with trail, pooled } = test.finding s := by cases test <;> rfl
      have hrun : Logic.run e.unguarded K k.name (.test test) { s with trail, pooled } =
          Logic.run e J k.name (.test test) s := by
        simp only [Logic.run, Logic.judgeTest, hsame]
      rw [hrun]
      apply hR.refl
      intro h
      exact finding_ne_referenceLoop hs hk hu hsel hb (Logic.verdict_judgeTest_error.mp h)
    | unknownFormat name =>
      obtain rfl := Built.logic.inj hbuilt
      rw [Step.outcome_eq (Logic.unknownFormat_onto _ _ _ name s),
        Step.outcome_eq (Logic.unknownFormat_onto _ _ _ name t)]
      exact hR.ok true
    | types =>
      obtain rfl := Built.logic.inj hbuilt
      exact Logic.types_related hR hJ hK hst hk hcalls
    | extending =>
      obtain rfl := Built.logic.inj hbuilt
      exact Logic.parts_related hR hJ hK hst hcalls
    | dependencies =>
      obtain rfl := Built.logic.inj hbuilt
      exact Logic.dependencies_related hR hJ hK hst hcalls
    | reference =>
      obtain rfl := Built.logic.inj hbuilt
      exact Logic.reference_related hR hst hcalls (hloop _)
  · exact hR.ok true

end Keyword

namespace Checker

variable {R : Except Fault Bool → Except Fault Bool → Prop} {e : Setting} {J K : Judge}
  {s t : Site} {node : Members} {kind : Kind}

theorem descent_related (hR : Compatible R) (hJ : J.Uniform) (hK : K.Uniform) (hst : s.Alike t)
    (hs : s.schema = .obj node) (hk : s.kind = .ok kind) (hu : Usable node s.value)
    (hcalls : kind = .array ∨ kind = .object → ∀ a ∈ childCalls kind s,
      R (J a).outcome.verdict (K a).outcome.verdict) :
    R (descent e J kind s).verdict (descent e.unguarded K kind t).verdict := by
  obtain ⟨trail, pooled, rfl⟩ := hst
  unfold descent
  split
  · rename_i hkind
    have hsame : Job.ofSite kind { s with trail, pooled } = Job.ofSite kind s := rfl
    cases hjobs : Job.ofSite kind s with
    | error f =>
      have habort (e : Setting) (J : Judge) (s : Site) (h : Job.ofSite kind s = .error f) :
          (runChildren e J kind s).outcome.verdict = .error f := by
        unfold runChildren
        rw [h]
        simp
      rw [habort _ _ _ hjobs, habort _ _ _ (hsame.trans hjobs)]
      apply hR.refl
      intro h
      obtain rfl := Except.error.inj h
      exact (escapes_of_ofSite (d := {}) hs hk hkind hu hjobs).ne_referenceLoop rfl
    | ok jobs =>
      rw [verdict_runChildren hJ hjobs, verdict_runChildren hK (hsame.trans hjobs)]
      apply hR.all
      apply forall₂_map
      intro j hj
      apply hcalls hkind
      unfold childCalls
      rw [hjobs]
      exact List.mem_map.mpr ⟨j, hj, rfl⟩
  · exact hR.ok true

theorem mem_calls_allOf_of_mem {cs : List Checker} {c : Checker} (hc : c ∈ cs) {a : Site}
    (ha : a ∈ c.calls e) : a ∈ (allOf cs).calls e := by
  have hall (cs : List Checker) (hc : c ∈ cs) : a ∈ callsAll e cs := by
    induction cs with
    | nil => simp at hc
    | cons d cs ih =>
      rcases List.mem_cons.mp hc with rfl | hc
      · exact List.mem_append_left _ ha
      · exact List.mem_append_right _ (ih hc)
  match cs, hc with
  | [d], hc =>
    rw [List.mem_singleton.mp hc] at ha
    exact ha
  | c :: d :: cs, hc => exact hall _ hc

theorem mem_calls_wrap_of_mem (kind : Kind) {c : Checker} {a : Site} (ha : a ∈ c.calls e) :
    a ∈ (wrap s kind c).calls e := by
  cases kind with
  | array => exact List.mem_append_left _ ha
  | object => exact List.mem_append_left _ ha
  | _ => exact ha

end Checker

namespace Setting

variable {R : Except Fault Bool → Except Fault Bool → Prop} {e : Setting} {J K : Judge}
  {s t : Site} {node : Members} {kind : Kind}

/-- What the logic of a keyword may have judged comes up at a node that can be used. -/
theorem mem_calls_of_logic (hv : e.vocabulary = .known) (hs : s.schema = .obj node)
    (hk : s.kind = .ok kind) (hbuilt : ∀ k ∈ Keyword.selected node kind, ∃ b, k.build node = .ok b)
    {k : Keyword} (hsel : k ∈ Keyword.selected node kind) {l : Logic}
    (hl : k.build node = .ok (.logic l)) {a : Site} (ha : a ∈ l.calls e s) : a ∈ e.calls s := by
  have hne : node ≠ [] := by
    rintro rfl
    obtain ⟨⟨w, hw⟩, _⟩ := Keyword.mem_selected.mp hsel
    cases hw
  obtain ⟨notes, hsite⟩ := (forSite_known hv hs hne hk).1 hbuilt
  have hchecker : a ∈ (k.checker node s).calls e := by
    unfold Keyword.checker
    rw [hl]
    exact ha
  unfold calls
  rw [hsite]
  exact Checker.mem_calls_wrap_of_mem kind
    (Checker.mem_calls_allOf_of_mem (List.mem_map.mpr ⟨k, hsel, rfl⟩) hchecker)

theorem mem_calls_of_child (hv : e.vocabulary = .known) (hs : s.schema = .obj node)
    (hne : node ≠ []) (hk : s.kind = .ok kind)
    (hbuilt : ∀ k ∈ Keyword.selected node kind, ∃ b, k.build node = .ok b)
    (hkind : kind = .array ∨ kind = .object) {a : Site} (ha : a ∈ Checker.childCalls kind s) :
    a ∈ e.calls s := by
  obtain ⟨notes, hsite⟩ := (forSite_known hv hs hne hk).1 hbuilt
  unfold calls
  rw [hsite]
  rcases hkind with rfl | rfl
  · exact List.mem_append_right _ ha
  · exact List.mem_append_right _ ha

/-- The verdicts of two rounds are related if those of the judges are at the sites that come up, one
of the judges following returning references. -/
theorem round_related (hR : Compatible R) (hv : e.vocabulary = .known) (hJ : J.Uniform)
    (hK : K.Uniform) (hst : s.Alike t)
    (hcalls : ∀ a ∈ e.calls s, ∀ b, a.Alike b → R (J a).outcome.verdict (K b).outcome.verdict)
    (hloop : ∀ ref l target, e.documents.resolve (.str ref) s.location = .ok (l, target) →
      e.loops ≠ .follow → (l, s.path) ∈ s.trail →
      R (Logic.judgeReference e J ref s).outcome.verdict (K (t.follow target l)).outcome.verdict) :
    R (e.round J s).outcome.verdict (e.unguarded.round K t).outcome.verdict := by
  by_cases hshape : s.schema.IsSchema
  · obtain ⟨node, hs⟩ := hshape
    by_cases hne : node = []
    · subst hne
      rw [round_nil hJ hs, round_nil hK (hst.schema.trans hs)]
      exact hR.ok true
    · cases hk : s.kind with
      | error f =>
        rw [round_kind hs hne hk, round_kind (hst.schema.trans hs) hne (hst.kind.trans hk)]
        apply hR.refl
        intro h
        obtain rfl := Except.error.inj h
        have hescapes : Escapes {} "" [] (.obj node) s.value .referenceLoop := .foreign hne hk
        exact hescapes.ne_referenceLoop rfl
      | ok kind =>
        by_cases hbuilt : ∀ k ∈ Keyword.selected node kind, ∃ b, k.build node = .ok b
        · have hu : Usable node s.value := usable_of_built (Kind.classify_ok.mp hk) hbuilt
          obtain ⟨ns, hround⟩ := round_built hv hJ hs hk hbuilt
          obtain ⟨ns', hround'⟩ : ∃ ns', (e.unguarded.round K t).outcome = _ :=
            round_built hv hK (hst.schema.trans hs) (hst.kind.trans hk) hbuilt
          rw [hround, hround', Outcome.verdict_after, Outcome.verdict_after]
          apply hR.andThen
          · apply hR.all
            apply forall₂_map
            intro k hsel
            apply Keyword.outcome_related hR hJ hK hst hs hk hu hsel _ hloop
            intro l hl a ha
            exact hcalls a (mem_calls_of_logic hv hs hk hbuilt hsel hl ha)
          · apply Checker.descent_related hR hJ hK hst hs hk hu
            intro hkind a ha
            exact hcalls a (mem_calls_of_child hv hs hne hk hbuilt hkind ha) a (.refl a)
        · push Not at hbuilt
          obtain ⟨k, hsel, hfail⟩ := hbuilt
          obtain ⟨ns, d, _, hround⟩ := round_unbuilt hv hJ hs hk hsel hfail
          obtain ⟨ns', d', _, hround'⟩ : ∃ ns', ∃ d' : Diagnostic, d'.Complains ∧
              (e.unguarded.round K t).outcome = _ :=
            round_unbuilt hv hK (hst.schema.trans hs) (hst.kind.trans hk) hsel hfail
          rw [hround, hround']
          exact hR.ok false
  · obtain ⟨ns, d, _, hround⟩ := round_shape (e := e) hJ hshape
    obtain ⟨ns', d', _, hround'⟩ := round_shape (e := e.unguarded) (s := t) hK
      (hst.schema ▸ hshape)
    rw [hround, hround']
    exact hR.ok false

end Setting

end Conform
