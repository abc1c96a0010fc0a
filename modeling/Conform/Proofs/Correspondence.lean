import Conform.Proofs.Dispatch

/-!
Judging that comes to the same at two sites up to how messages correspond. Whoever says
corresponding things at two sites of one value finds corresponding things there: each test, and each
logic and the children if the sites that they have judged come to corresponding outcomes.
-/
namespace Conform

variable {D : Diagnostic → Diagnostic → Prop}

/-- Corresponding messages in the same order, and the same verdict. -/
structure Outcome.Corresponds (D : Diagnostic → Diagnostic → Prop) (a b : Outcome) : Prop where
  messages : List.Forall₂ D a.messages b.messages
  verdict : a.verdict = b.verdict

namespace Outcome.Corresponds

variable {a b a' b' : Outcome}

theorem refl (hD : ∀ d, D d d) (o : Outcome) : o.Corresponds D o :=
  ⟨List.forall₂_same.mpr fun d _ => hD d, rfl⟩

theorem andThen (ha : a.Corresponds D a') (hb : b.Corresponds D b') :
    (a.andThen b).Corresponds D (a'.andThen b') := by
  have hverdict := ha.verdict
  unfold Outcome.andThen
  rw [hverdict]
  cases a'.verdict with
  | error f => exact ⟨ha.messages, hverdict⟩
  | ok x =>
    exact ⟨List.rel_append ha.messages hb.messages, congrArg (Except.map (x && ·)) hb.verdict⟩

theorem all {os os' : List Outcome} (h : List.Forall₂ (Outcome.Corresponds D) os os') :
    (Outcome.all os).Corresponds D (Outcome.all os') := by
  induction h with
  | nil => exact ⟨.nil, rfl⟩
  | cons hab _ ih => exact hab.andThen ih

theorem apart (h : a.Corresponds D b) : a.apart.Corresponds D b.apart := by
  unfold Outcome.apart
  rw [h.verdict]
  cases b.verdict with
  | error f => exact ⟨.nil, rfl⟩
  | ok x => exact h

theorem after (h : a.Corresponds D b) (ns ns' : List Note) :
    (a.after ns).Corresponds D (b.after ns') :=
  ⟨h.messages, h.verdict⟩

end Outcome.Corresponds

namespace Step

variable {ss ts : List Step}

theorem corresponds_all (hss : ∀ s ∈ ss, s.Uniform) (hts : ∀ t ∈ ts, t.Uniform)
    (h : List.Forall₂ (fun s t => s.outcome.Corresponds D t.outcome) ss ts) :
    (all ss).outcome.Corresponds D (all ts).outcome := by
  rw [outcome_all hss, outcome_all hts]
  apply Outcome.Corresponds.all
  rwa [List.forall₂_map_left_iff, List.forall₂_map_right_iff]

theorem corresponds_fail {d d' : Diagnostic} (h : D d d') :
    (fail d).outcome.Corresponds D (fail d').outcome := by
  rw [outcome_fail, outcome_fail]
  exact ⟨.cons h .nil, rfl⟩

/-- Who says nothing corresponds to himself, whatever messages are related to. -/
theorem corresponds_same {s : Step} (h : s.outcome.messages = []) :
    s.outcome.Corresponds D s.outcome := by
  refine ⟨?_, rfl⟩
  rw [h]
  exact .nil

end Step

/-- Sites of one value at which corresponding things are said. -/
structure Site.Corresponds (D : Diagnostic → Diagnostic → Prop) (s t : Site) : Prop where
  value : s.value = t.value
  diagnostic : ∀ message keyword details level domain,
    D (s.diagnostic message keyword details level domain)
      (t.diagnostic message keyword details level domain)

variable {s t : Site}

theorem Site.Corresponds.kind (h : s.Corresponds D t) : s.kind = t.kind := by
  rw [Site.kind, h.value, ← Site.kind]

namespace Test

theorem rel_complainUnless {met : Bool} {x y : Except Fault Diagnostic} (h : Answer.Rel D x y) :
    Answer.Rel (Option.Rel D) (complainUnless met x) (complainUnless met y) := by
  cases met with
  | true => exact .ok .none
  | false => exact h.map fun _ _ => .some

/-- A test looks at the value alone. -/
theorem finding_corresponds (h : s.Corresponds D t) (test : Test) :
    Answer.Rel (Option.Rel D) (test.finding s) (test.finding t) := by
  obtain ⟨hvalue, hd⟩ := h
  obtain ⟨_, value, _, _, _, _⟩ := s
  obtain ⟨_, _, _, _, _, _⟩ := t
  obtain rfl : value = _ := hvalue
  cases test with
  | itemCount keyword limit lower =>
    exact Answer.Rel.same_bind _ fun n =>
      rel_complainUnless (Answer.Rel.same_bind _ fun most => .ok (hd ..))
  | distinct =>
    refine Answer.Rel.same_bind _ fun xs => .ok ?_
    cases firstRepetition [] xs with
    | none => exact .none
    | some p => exact .some (hd ..)
  | tupleLength allowed => exact Answer.Rel.same_bind _ fun n => rel_complainUnless (.ok (hd ..))
  | bound keyword limit exclusive lower =>
    refine Answer.Rel.same_bind _ fun x => Answer.Rel.same_bind _ fun y => rel_complainUnless ?_
    exact Answer.Rel.same_bind _ fun number => Answer.Rel.same_bind _ fun required => .ok (hd ..)
  | multiple divisor =>
    refine Answer.Rel.same_bind _ fun x => Answer.Rel.same_bind _ fun y => rel_complainUnless ?_
    exact Answer.Rel.same_bind _ fun number => Answer.Rel.same_bind _ fun wanted => .ok (hd ..)
  | textLength keyword limit lower =>
    exact Answer.Rel.same_bind _ fun text =>
      rel_complainUnless (Answer.Rel.same_bind _ fun most => .ok (hd ..))
  | pattern p =>
    exact Answer.Rel.same_bind _ fun text => Answer.Rel.same_bind _ fun b =>
      rel_complainUnless (.ok (hd ..))
  | required names => exact Answer.Rel.same_bind _ fun absent => rel_complainUnless (.ok (hd ..))
  | closed declared patterns =>
    exact Answer.Rel.same_bind _ fun extra => rel_complainUnless (.ok (hd ..))
  | oneOf values =>
    exact rel_complainUnless (Answer.Rel.same_bind _ fun shown => .ok (hd ..))
  | format f =>
    refine Answer.Rel.same_bind _ fun kind => ?_
    split
    · exact .ok .none
    · exact Answer.Rel.same_bind _ fun valid => rel_complainUnless (.ok (hd ..))

end Test

namespace Logic

variable {e : Setting} {J : Judge} (h : s.Corresponds D t)

/-- Trials that come to the same, and find corresponding things. -/
def TrialsCorrespond (D : Diagnostic → Diagnostic → Prop) (a b : Bool × List Report) : Prop :=
  a.1 = b.1 ∧ List.Forall₂ (fun r r' => List.Forall₂ D r.messages r'.messages) a.2 b.2

theorem tries_correspond (hJ : J.Uniform) {ss ts : List Site}
    (h : List.Forall₂ (fun s t => (J s).outcome.Corresponds D (J t).outcome) ss ts) :
    Answer.Rel (TrialsCorrespond D) (tries J ss []).2 (tries J ts []).2 := by
  induction h with
  | nil => exact .ok ⟨rfl, .nil⟩
  | cons hst _ ih =>
    rw [tries_cons hJ, tries_cons hJ, hst.verdict]
    refine Answer.Rel.same_bind _ fun b => ?_
    cases b with
    | true => exact .ok ⟨rfl, .cons hst.messages .nil⟩
    | false => exact ih.map fun _ _ hp => ⟨hp.1, .cons hst.messages hp.2⟩

include h

theorem corresponds_test (test : Test) :
    (judgeTest test s).outcome.Corresponds D (judgeTest test t).outcome := by
  have hfinding := test.finding_corresponds h
  unfold judgeTest
  generalize test.finding s = x, test.finding t = y at hfinding
  cases hfinding with
  | error f => exact Step.corresponds_same (by simp)
  | ok hd => cases hd with
    | none => exact Step.corresponds_same (by simp)
    | some hd => exact Step.corresponds_fail hd

theorem corresponds_unknownFormat (keyword name : String) :
    (run e J keyword (.unknownFormat name) s).outcome.Corresponds D
      (run e J keyword (.unknownFormat name) t).outcome := by
  rw [Step.outcome_eq (unknownFormat_onto e J keyword name s),
    Step.outcome_eq (unknownFormat_onto e J keyword name t)]
  exact ⟨.cons (h.diagnostic ..) .nil, rfl⟩

variable (hJ : J.Uniform)

include hJ

theorem matching_corresponds (keyword : String) (names : List String) {parts : List Part}
    (hcalls : ∀ p ∈ parts,
      (J (s.scratch p.schema (partLocation s keyword p))).outcome.Corresponds D
        (J (t.scratch p.schema (partLocation t keyword p))).outcome) :
    Answer.Rel (TrialsCorrespond D) (matching J keyword names parts s []).2
      (matching J keyword names parts t []).2 := by
  unfold matching
  rw [h.value]
  split
  · exact .error _
  · exact .ok ⟨rfl, .nil⟩
  · apply tries_correspond hJ
    rw [List.forall₂_map_left_iff, List.forall₂_map_right_iff, List.forall₂_same]
    exact hcalls

theorem corresponds_types (keyword : String) (names : List String) {parts : List Part}
    (negated : Bool)
    (hcalls : ∀ p ∈ parts,
      (J (s.scratch p.schema (partLocation s keyword p))).outcome.Corresponds D
        (J (t.scratch p.schema (partLocation t keyword p))).outcome) :
    (judgeTypes J keyword names parts negated s).outcome.Corresponds D
      (judgeTypes J keyword names parts negated t).outcome := by
  have hmatching := matching_corresponds h hJ keyword names hcalls
  rw [Step.outcome_eq (judgeTypes_onto hJ keyword names parts negated s),
    Step.outcome_eq (judgeTypes_onto hJ keyword names parts negated t)]
  unfold typesOutcome
  rw [h.kind]
  generalize matching J keyword names parts s [] = x, matching J keyword names parts t [] = y
    at hmatching
  obtain ⟨notes, x⟩ := x
  obtain ⟨notes', y⟩ := y
  cases hmatching with
  | error f => exact ⟨.nil, rfl⟩
  | @ok a b hab =>
    obtain ⟨matched, trials⟩ := a
    obtain ⟨matched', trials'⟩ := b
    obtain ⟨rfl, htrials⟩ : matched = matched' ∧ _ := hab
    cases t.kind with
    | error f => exact ⟨.nil, rfl⟩
    | ok kind =>
      cases negated <;> cases matched
      -- only a type that fails shows what its trials found
      · refine ⟨.cons (h.diagnostic ..) ?_, rfl⟩
        exact List.rel_flatMap htrials fun _ _ hr => hr
      · exact ⟨.nil, rfl⟩
      · exact ⟨.nil, rfl⟩
      · exact ⟨.cons (h.diagnostic ..) .nil, rfl⟩

omit h in
theorem corresponds_parts (keyword : String) {parts : List Part}
    (hcalls : ∀ p ∈ parts,
      (J (s.under p.schema (partLocation s keyword p))).outcome.Corresponds D
        (J (t.under p.schema (partLocation t keyword p))).outcome) :
    (judgeParts J keyword parts s).outcome.Corresponds D
      (judgeParts J keyword parts t).outcome := by
  apply Step.corresponds_all (hJ.map _ _) (hJ.map _ _)
  exact forall₂_map hcalls

theorem corresponds_dependencies (required : List (String × List String)) {schemas : Members}
    (hcalls : ∀ d ∈ schemas,
      (J (s.under d.2 (s.location.append [.name "dependencies", .name d.1]))).outcome.Corresponds D
        (J (t.under d.2 (t.location.append [.name "dependencies", .name d.1]))).outcome) :
    (judgeDependencies J required schemas s).outcome.Corresponds D
      (judgeDependencies J required schemas t).outcome := by
  unfold judgeDependencies
  rw [h.value]
  split
  · rename_i members _
    apply Step.corresponds_all (uniform_dependencySteps hJ required schemas s members)
      (uniform_dependencySteps hJ required schemas t members)
    apply List.rel_append
    · apply forall₂_map
      intro d _
      unfold judgeRequired
      dsimp only
      split
      · split
        · exact Step.corresponds_same (by simp)
        · exact Step.corresponds_fail (h.diagnostic ..)
      · exact Step.corresponds_same (by simp)
    · apply forall₂_map
      intro d hd
      unfold judgeDependent
      split
      · exact hcalls d hd
      · exact Step.corresponds_same (by simp)
  · exact Step.corresponds_same (by simp)

omit hJ in
/-- A reference that leads to the same place from both sites, and is followed from both or none. -/
theorem corresponds_reference {ref : String}
    (hresolve : e.documents.resolve (.str ref) s.location =
      e.documents.resolve (.str ref) t.location)
    (htrail : ∀ l, s.trail.contains (l, s.path) = t.trail.contains (l, t.path))
    (hlooping : D (looping s ref) (looping t ref))
    (hcalls : ∀ l target, e.documents.resolve (.str ref) t.location = .ok (l, target) →
      (J (s.follow target l)).outcome.Corresponds D (J (t.follow target l)).outcome) :
    (judgeReference e J ref s).outcome.Corresponds D (judgeReference e J ref t).outcome := by
  unfold judgeReference
  rw [hresolve]
  cases hfound : e.documents.resolve (.str ref) t.location with
  | error f =>
    dsimp only
    split
    · exact Step.corresponds_fail (h.diagnostic ..)
    · exact Step.corresponds_same (by simp)
  | ok found =>
    obtain ⟨l, target⟩ := found
    -- both sides stop at the same loop, or both go on to the same place
    dsimp only
    rw [htrail l]
    split
    · split
      · exact Step.corresponds_same (by simp)
      · exact Step.corresponds_fail hlooping
    · exact hcalls l target hfound

end Logic

namespace Checker

variable {e : Setting} {J : Judge}

theorem corresponds_children (hJ : J.Uniform) {kind : Kind}
    (hsame : Job.ofSite kind s = Job.ofSite kind t) (hpooled : s.pooled = t.pooled)
    (hcalls : ∀ jobs, Job.ofSite kind t = .ok jobs → ∀ j ∈ jobs,
      (J (j.site s)).outcome.Corresponds D (J (j.site t)).outcome) :
    (runChildren e J kind s).outcome.Corresponds D (runChildren e J kind t).outcome := by
  cases hjobs : Job.ofSite kind t with
  | error f =>
    simp only [runChildren, hsame, hjobs]
    exact Step.corresponds_same (by simp)
  | ok jobs =>
    have hjob := hcalls jobs hjobs
    have hs := hJ.map jobs fun j => j.site s
    have ht := hJ.map jobs fun j => j.site t
    simp only [runChildren, hsame, hjobs, hpooled]
    -- with a pool the outcomes are joined apart, which keeps them corresponding
    split
    · rw [Step.outcome_eq (Step.note_onto (Step.uniform_all (Step.uniform_map_apart hs)) _),
        Step.outcome_eq (Step.note_onto (Step.uniform_all (Step.uniform_map_apart ht)) _),
        Step.outcome_all_apart hs, Step.outcome_all_apart ht]
      simp only [List.map_map]
      exact (Outcome.Corresponds.all (forall₂_map fun j hj => (hjob j hj).apart)).after _ _
    · exact Step.corresponds_all hs ht (forall₂_map hjob)

theorem corresponds_allOf (hJ : J.Uniform) {cs cs' : List Checker}
    (h : List.Forall₂ (fun c c' => (c.run e J).outcome.Corresponds D (c'.run e J).outcome) cs cs') :
    ((allOf cs).run e J).outcome.Corresponds D ((allOf cs').run e J).outcome := by
  rw [outcome_allOf e hJ, outcome_allOf e hJ]
  apply Outcome.Corresponds.all
  rwa [List.forall₂_map_left_iff, List.forall₂_map_right_iff]

end Checker

/-- Sites that are dispatched to checkers which come to corresponding outcomes, or to the same
fault, come to corresponding outcomes. -/
theorem Setting.corresponds_round {e : Setting} {J : Judge} (hJ : J.Uniform)
    (h : Answer.Rel (fun c c' => (c.run e J).outcome.Corresponds D (c'.run e J).outcome)
      (Checker.forSite e.vocabulary s).2 (Checker.forSite e.vocabulary t).2) :
    (e.round J s).outcome.Corresponds D (e.round J t).outcome := by
  rcases hs : Checker.forSite e.vocabulary s with ⟨notes, x⟩
  rcases ht : Checker.forSite e.vocabulary t with ⟨notes', y⟩
  rw [hs, ht] at h
  cases h with
  | error f =>
    rw [outcome_round_error hs, outcome_round_error ht]
    exact ⟨.nil, rfl⟩
  | ok h =>
    rw [outcome_round hJ hs, outcome_round hJ ht]
    exact h.after notes notes'

end Conform
