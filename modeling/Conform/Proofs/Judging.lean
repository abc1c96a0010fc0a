import Conform.Proofs.Outcome

/-!
Judging is uniform. If the sites below are judged by uniform steps, so are the logic of a keyword,
a checker and a dispatched site, whatever the vocabulary is; hence every bounded number of
dispatches is. Beside it stands what the alternatives of a type come to.
-/
namespace Conform

/-- A judge whose steps all are what their outcomes say. -/
def Judge.Uniform (J : Judge) : Prop := ∀ s, (J s).Uniform

theorem Judge.Uniform.map {J : Judge} (hJ : J.Uniform) {α : Type} (xs : List α) (f : α → Site) :
    ∀ step ∈ xs.map fun x => J (f x), step.Uniform := by
  intro step hstep
  obtain ⟨x, _, rfl⟩ := List.mem_map.mp hstep
  exact hJ _

namespace Logic

variable {J : Judge}

/-- Trials only add to the notes taken before them. -/
theorem tries_notes (hJ : J.Uniform) (ss : List Site) (notes : List Note) :
    tries J ss notes = ((tries J ss []).1 ++ notes, (tries J ss []).2) := by
  induction ss generalizing notes with
  | nil => rfl
  | cons s ss ih =>
    simp only [tries, hJ s _, Outcome.onto, List.append_nil]
    cases hv : (J s).outcome.verdict with
    | error f => simp
    | ok b =>
      cases b with
      | true => simp
      | false =>
        simp only
        -- both sides go on with notes of their own, which the induction moves to the end
        rw [ih ((J s).outcome.notes ++ notes), ih (J s).outcome.notes]
        cases ht : (tries J ss []).2 with
        | error f => simp [List.append_assoc]
        | ok p => simp [List.append_assoc]

/-- What the first trial says decides whether there are any others. -/
theorem tries_cons (hJ : J.Uniform) (s : Site) (ss : List Site) :
    (tries J (s :: ss) []).2 = (J s).outcome.verdict.bind fun b =>
      if b then .ok (true, [⟨.debug, (J s).outcome.messages⟩])
      else (tries J ss []).2.map fun p => (p.1, ⟨.debug, (J s).outcome.messages⟩ :: p.2) := by
  simp only [tries, hJ s _, Outcome.onto, Report.logAll_debug, List.nil_append]
  cases (J s).outcome.verdict with
  | error f => rfl
  | ok b =>
    cases b with
    | true => rfl
    | false =>
      simp only
      rw [tries_notes hJ]
      cases (tries J ss []).2 <;> rfl

/-- The trials of schemas find one that holds exactly if some trial says yes. -/
theorem tries_ok (hJ : J.Uniform) {ss : List Site} {matched : Bool} {reports : List Report}
    (h : (tries J ss []).2 = .ok (matched, reports)) :
    (matched = true ↔ ∃ s ∈ ss, (J s).outcome.verdict = .ok true) ∧
      (matched = false → ∀ s ∈ ss, (J s).outcome.verdict = .ok false) := by
  induction ss generalizing matched reports with
  | nil =>
    obtain ⟨rfl, _⟩ := Prod.mk.inj (Except.ok.inj h)
    simp
  | cons s ss ih =>
    rw [tries_cons hJ] at h
    obtain ⟨b, hb, h⟩ := Answer.bind_ok.mp h
    cases b with
    | true =>
      obtain ⟨rfl, _⟩ := Prod.mk.inj (Except.ok.inj h)
      simp [hb]
    | false =>
      obtain ⟨⟨found, later⟩, hrest, hp⟩ := Answer.map_ok.mp h
      obtain ⟨rfl, _⟩ := Prod.mk.inj hp
      obtain ⟨hiff, hfalse⟩ := ih hrest
      simp only [List.mem_cons, exists_eq_or_imp, hb, forall_eq_or_imp]
      refine ⟨by simpa using hiff, fun hm => ⟨trivial, hfalse hm⟩⟩

/-- Trials fail with the first one that fails, those before it having said no. -/
theorem tries_error (hJ : J.Uniform) {ss : List Site} {f : Fault} :
    (tries J ss []).2 = .error f ↔ ∃ pre s post, ss = pre ++ s :: post ∧
      (∀ t ∈ pre, (J t).outcome.verdict = .ok false) ∧ (J s).outcome.verdict = .error f := by
  induction ss with
  | nil => simp [tries]
  | cons s ss ih =>
    rw [tries_cons hJ, Answer.bind_error]
    constructor
    · intro h
      rcases h with hv | ⟨b, hb, h⟩
      · exact ⟨[], s, ss, rfl, by simp, hv⟩
      · cases b with
        | true => cases h
        | false =>
          obtain ⟨pre, t, post, rfl, hpre, ht⟩ := ih.mp (Answer.map_error.mp h)
          exact ⟨s :: pre, t, post, rfl, List.forall_mem_cons.mpr ⟨hb, hpre⟩, ht⟩
    · intro h
      obtain ⟨pre, t, post, hss, hpre, ht⟩ := h
      -- the trial that fails is the first one or a later one
      cases pre with
      | nil =>
        obtain ⟨rfl, _⟩ := List.cons.inj hss
        exact .inl ht
      | cons q pre =>
        obtain ⟨rfl, htail⟩ := List.cons.inj hss
        obtain ⟨hq, hpre⟩ := List.forall_mem_cons.mp hpre
        have hrest := ih.mpr ⟨pre, t, post, htail, hpre, ht⟩
        exact .inr ⟨false, hq, Answer.map_error.mpr hrest⟩

theorem matching_notes (hJ : J.Uniform) (keyword : String) (names : List String)
    (schemas : List Part) (s : Site) (notes : List Note) :
    matching J keyword names schemas s notes =
      ((matching J keyword names schemas s []).1 ++ notes,
        (matching J keyword names schemas s []).2) := by
  unfold matching
  split
  · rfl
  · rfl
  · exact tries_notes hJ _ _

/-- The outcome of a type: a failed one is reported before everything that its trials found. -/
def typesOutcome (J : Judge) (keyword : String) (names : List String) (schemas : List Part)
    (negated : Bool) (s : Site) : Outcome :=
  match matching J keyword names schemas s [] with
  | (notes, .error f) => ⟨notes, [], .error f⟩
  | (notes, .ok (matched, trials)) =>
    match s.kind with
    | .error f => ⟨notes, [], .error f⟩
    | .ok found =>
      if negated then
        if matched then ⟨notes, [disallowed s keyword names found], .ok false⟩
        else ⟨notes, [], .ok true⟩
      else if matched then ⟨notes, [], .ok true⟩
      else ⟨notes, notAllowed s keyword names schemas found :: trials.flatMap (·.messages),
        .ok false⟩

theorem foldl_logAll (rs : List Report) (j : Journal) :
    rs.foldl (fun j r => j.logAll r.messages) j = j.logAll (rs.flatMap (·.messages)) := by
  induction rs generalizing j with
  | nil => rfl
  | cons r rs ih =>
    rw [List.foldl_cons, ih, List.flatMap_cons]
    simp only [Journal.logAll, Report.logAll_append]

theorem judgeTypes_onto (hJ : J.Uniform) (keyword : String) (names : List String)
    (schemas : List Part) (negated : Bool) (s : Site) (j : Journal) :
    judgeTypes J keyword names schemas negated s j =
      (typesOutcome J keyword names schemas negated s).onto j := by
  unfold judgeTypes typesOutcome
  rw [matching_notes hJ]
  rcases hm : matching J keyword names schemas s [] with ⟨notes, f | ⟨matched, trials⟩⟩
  · rfl
  · cases hk : s.kind with
    | error f => rfl
    | ok found =>
      -- only a type that fails logs what its trials found
      cases negated <;> cases matched <;>
        simp only [Bool.false_eq_true, ↓reduceIte, foldl_logAll] <;> rfl

theorem uniform_judgeTest (t : Test) (s : Site) : (judgeTest t s).Uniform := by
  unfold judgeTest
  split
  · exact Step.uniform_abort _
  · exact Step.uniform_answer _
  · exact Step.uniform_fail _

theorem uniform_judgeReference (e : Setting) (hJ : J.Uniform) (ref : String) (s : Site) :
    (judgeReference e J ref s).Uniform := by
  unfold judgeReference
  split
  · split
    · exact Step.uniform_fail _
    · exact Step.uniform_abort _
  · split
    · split
      · exact Step.uniform_abort _
      · exact Step.uniform_fail _
    · exact hJ _

theorem uniform_judgeRequired (s : Site) (members : Members) (d : String × List String) :
    (judgeRequired s members d).Uniform := by
  unfold judgeRequired
  split
  · dsimp only
    split
    · exact Step.uniform_answer _
    · exact Step.uniform_fail _
  · exact Step.uniform_answer _

theorem uniform_judgeDependent (hJ : J.Uniform) (s : Site) (members : Members)
    (d : String × Value) : (judgeDependent J s members d).Uniform := by
  unfold judgeDependent
  split
  · exact hJ _
  · exact Step.uniform_answer _

theorem uniform_dependencySteps (hJ : J.Uniform) (required : List (String × List String))
    (schemas : List (String × Value)) (s : Site) (members : Members) :
    ∀ step ∈ required.map (judgeRequired s members) ++
      schemas.map (judgeDependent J s members), step.Uniform := by
  intro step hstep
  rcases List.mem_append.mp hstep with hstep | hstep
  · obtain ⟨d, _, rfl⟩ := List.mem_map.mp hstep
    exact uniform_judgeRequired s members d
  · obtain ⟨d, _, rfl⟩ := List.mem_map.mp hstep
    exact uniform_judgeDependent hJ s members d

theorem uniform_judgeDependencies (hJ : J.Uniform) (required : List (String × List String))
    (schemas : List (String × Value)) (s : Site) :
    (judgeDependencies J required schemas s).Uniform := by
  unfold judgeDependencies
  split
  · exact Step.uniform_all (uniform_dependencySteps hJ required schemas s _)
  · exact Step.uniform_answer _

theorem uniform_judgeParts (hJ : J.Uniform) (keyword : String) (parts : List Part) (s : Site) :
    (judgeParts J keyword parts s).Uniform :=
  Step.uniform_all (hJ.map parts _)

theorem uniform_judgeTold (keyword : String) (answer : List Diagnostic × Except Fault Value) :
    (judgeTold keyword answer).Uniform := by
  obtain ⟨ms, f | v⟩ := answer
  · exact Step.uniform_of (o := ⟨[], ms, .error f⟩) fun _ => rfl
  · cases v with
    | bool b => exact Step.uniform_of (o := ⟨[], ms, .ok b⟩) fun _ => rfl
    | _ => exact Step.uniform_of (o := ⟨[], ms, .error (.notVerdict keyword _)⟩) fun _ => rfl

theorem unknownFormat_onto (e : Setting) (J : Judge) (keyword name : String) (s : Site)
    (j : Journal) : run e J keyword (.unknownFormat name) s j =
      Outcome.onto ⟨[], [unsupported s name], .ok true⟩ j := rfl

theorem uniform_run (e : Setting) (hJ : J.Uniform) (keyword : String) (l : Logic) (s : Site) :
    (l.run e J keyword s).Uniform := by
  cases l with
  | test t => exact uniform_judgeTest t s
  | unknownFormat name => exact Step.uniform_of (unknownFormat_onto e J keyword name s)
  | types keyword names schemas negated =>
    exact Step.uniform_of (judgeTypes_onto hJ keyword names schemas negated s)
  | extending schemas => exact uniform_judgeParts hJ "extends" schemas s
  | dependencies required schemas => exact uniform_judgeDependencies hJ required schemas s
  | reference ref => exact uniform_judgeReference e hJ ref s
  | told answer => exact uniform_judgeTold keyword (answer s)

end Logic

namespace Checker

variable {J : Judge}

theorem uniform_runChildren (e : Setting) (hJ : J.Uniform) (kind : Kind) (s : Site) :
    (runChildren e J kind s).Uniform := by
  unfold runChildren
  split
  · exact Step.uniform_abort _
  · rename_i jobs _
    dsimp only
    split
    · have hall := Step.uniform_all (Step.uniform_map_apart (hJ.map jobs fun job => job.site s))
      exact Step.uniform_of (Step.note_onto hall _)
    · exact Step.uniform_all (hJ.map jobs _)

mutual

theorem uniform_run (e : Setting) (hJ : J.Uniform) : ∀ c : Checker, (c.run e J).Uniform
  | .always => Step.uniform_answer true
  | .never none => Step.uniform_answer false
  | .never (some d) => Step.uniform_fail d
  | .single keyword logic s => logic.uniform_run e hJ keyword s
  | .all members => uniform_runAll e hJ members
  | .container kind node s =>
    Step.uniform_both (uniform_run e hJ node) (uniform_runChildren e hJ kind s)
  | .stray t => Step.uniform_abort (.notChecker t)

theorem uniform_runAll (e : Setting) (hJ : J.Uniform) : ∀ cs, (runAll e J cs).Uniform
  | [] => Step.uniform_answer true
  | c :: cs => Step.uniform_both (uniform_run e hJ c) (uniform_runAll e hJ cs)

end

end Checker

namespace Setting

theorem uniform_round (e : Setting) {J : Judge} (hJ : J.Uniform) : (e.round J).Uniform := by
  intro s
  rcases hc : Checker.forSite e.vocabulary s with ⟨notes, f | c⟩
  · apply Step.uniform_of (o := ⟨notes.reverse, [], .error f⟩)
    intro j
    simp only [round, hc]
    rfl
  · apply Step.uniform_of (o := (c.run e J).outcome.after notes)
    intro j
    simp only [round, hc]
    exact Step.note_onto (c.uniform_run e hJ) notes j

/-- Judging a site appends to any journal what it appends to an empty one. -/
theorem uniform_judge (e : Setting) (fuel : Nat) : (e.judge fuel).Uniform := by
  induction fuel with
  | zero => exact fun _ => Step.uniform_abort _
  | succ fuel ih => exact e.uniform_round ih

end Setting

end Conform
