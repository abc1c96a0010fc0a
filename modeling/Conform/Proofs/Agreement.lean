import Conform.Config.Check
import Conform.Proofs.Verdict

/-!
Verdict and report agree. Whatever judging comes to, it says yes exactly if nothing that it found
is an error: each logic that says no logs an error of its own, and what the trials of a type found
is kept just when the type fails. Collecting the findings into a report keeps this, as the first
complaint about a place is never dropped.
-/
namespace Conform

/-- Whether none of some diagnostics is an error. -/
def isClean (ms : List Diagnostic) : Bool := ms.all fun m => !m.level.reaches .error

theorem isClean_append (ms ns : List Diagnostic) :
    isClean (ms ++ ns) = (isClean ms && isClean ns) := List.all_append

theorem isClean_cons_of_error {m : Diagnostic} {ms : List Diagnostic} (h : m.level = .error) :
    isClean (m :: ms) = false := by
  have hreaches : Severity.error.reaches .error = true := by decide
  simp [isClean, h, hreaches]

/-- Complaints about nodes that cannot be used are errors. -/
def Grave (ms : List Diagnostic) : Prop := ∀ m ∈ ms, m.isConstruction → m.level = .error

theorem grave_append {ms ns : List Diagnostic} (hm : Grave ms) (hn : Grave ns) :
    Grave (ms ++ ns) :=
  List.forall_mem_append.mpr ⟨hm, hn⟩

/-- The verdict says whether the findings are clean. -/
structure Outcome.Agrees (o : Outcome) : Prop where
  verdict : ∀ b, o.verdict = .ok b → b = isClean o.messages
  grave : Grave o.messages

def Judge.Agrees (J : Judge) : Prop := ∀ s, (J s).outcome.Agrees

namespace Outcome

theorem agrees_pass : pass.Agrees := by
  refine ⟨?_, ?_⟩
  · intro b h
    exact (Except.ok.inj h).symm
  · intro m hm
    simp [pass] at hm

theorem agrees_abort (notes : List Note) (f : Fault) : Agrees ⟨notes, [], .error f⟩ := by
  refine ⟨?_, ?_⟩
  · intro b h
    cases h
  · intro m hm
    simp at hm

/-- One error and no. -/
theorem agrees_fail (notes : List Note) {d : Diagnostic} (hlevel : d.level = .error) :
    Agrees ⟨notes, [d], .ok false⟩ := by
  refine ⟨?_, ?_⟩
  · intro b h
    obtain rfl : false = b := Except.ok.inj h
    rw [isClean_cons_of_error hlevel]
  · intro m hm _
    rw [List.mem_singleton.mp hm]
    exact hlevel

theorem Agrees.andThen {a b : Outcome} (ha : a.Agrees) (hb : b.Agrees) :
    (a.andThen b).Agrees := by
  cases hv : a.verdict with
  | error f =>
    have hand : a.andThen b = a := by simp [Outcome.andThen, hv]
    rwa [hand]
  | ok x =>
    have hand : (a.andThen b).messages = a.messages ++ b.messages := by
      simp [Outcome.andThen, hv]
    refine ⟨?_, ?_⟩
    · intro z hz
      obtain ⟨x', y, hx, hy, rfl⟩ := verdict_andThen_ok.mp hz
      rw [hand, isClean_append, ← ha.verdict x' hx, ← hb.verdict y hy]
    · rw [hand]
      exact grave_append ha.grave hb.grave

theorem agrees_all {os : List Outcome} (h : ∀ o ∈ os, o.Agrees) : (all os).Agrees := by
  induction os with
  | nil => exact agrees_pass
  | cons o os ih =>
    obtain ⟨ho, hos⟩ := List.forall_mem_cons.mp h
    exact ho.andThen (ih hos)

theorem Agrees.apart {o : Outcome} (h : o.Agrees) : o.apart.Agrees := by
  unfold Outcome.apart
  split
  · exact agrees_abort _ _
  · exact h

theorem Agrees.after {o : Outcome} (h : o.Agrees) (ns : List Note) : (o.after ns).Agrees :=
  ⟨h.verdict, h.grave⟩

end Outcome

namespace Step

/-- Steps in turn agree if each of them does. -/
theorem agrees_all {ss : List Step} (hs : ∀ s ∈ ss, s.Uniform)
    (h : ∀ s ∈ ss, s.outcome.Agrees) : (all ss).outcome.Agrees := by
  rw [outcome_all hs]
  apply Outcome.agrees_all
  intro o ho
  obtain ⟨s, hs, rfl⟩ := List.mem_map.mp ho
  exact h s hs

theorem agrees_answer : (answer true).outcome.Agrees := by
  rw [outcome_answer]
  exact Outcome.agrees_pass

theorem agrees_abort (f : Fault) : (abort f).outcome.Agrees := by
  rw [outcome_abort]
  exact Outcome.agrees_abort _ _

theorem agrees_fail {d : Diagnostic} (h : d.level = .error) : (fail d).outcome.Agrees := by
  rw [outcome_fail]
  exact Outcome.agrees_fail _ h

end Step

namespace Test

/-- Whatever a test finds is an error. -/
theorem level_finding {t : Test} {s : Site} {d : Diagnostic}
    (h : t.finding s = .ok (some d)) : d.level = .error := by
  obtain ⟨message, details, rfl⟩ := eq_diagnostic_of_finding h
  rfl

end Test

namespace Logic

variable {e : Setting} {J : Judge} {s : Site}

theorem agrees_judgeTest (t : Test) : (judgeTest t s).outcome.Agrees := by
  unfold judgeTest
  split
  · exact Step.agrees_abort _
  · exact Step.agrees_answer
  · rename_i d hd
    exact Step.agrees_fail (Test.level_finding hd)

/-- A note about an unknown format is no error. -/
theorem agrees_unknownFormat (keyword name : String) :
    (run e J keyword (.unknownFormat name) s).outcome.Agrees := by
  rw [Step.outcome_eq (unknownFormat_onto e J keyword name s)]
  refine ⟨?_, ?_⟩
  · intro b h
    exact (Except.ok.inj h).symm
  · intro m hm hc
    rw [List.mem_singleton.mp hm] at hc
    cases hc

theorem grave_tries (hJ : J.Uniform) (hagrees : J.Agrees) {ss : List Site} {b : Bool}
    {reports : List Report} (h : (tries J ss []).2 = .ok (b, reports)) :
    Grave (reports.flatMap (·.messages)) := by
  induction ss generalizing b reports with
  | nil =>
    obtain ⟨_, rfl⟩ := Prod.mk.inj (Except.ok.inj h)
    intro m hm
    simp at hm
  | cons s ss ih =>
    rw [tries_cons hJ] at h
    obtain ⟨x, _, h⟩ := Answer.bind_ok.mp h
    cases x with
    | true =>
      obtain ⟨_, rfl⟩ := Prod.mk.inj (Except.ok.inj h)
      simpa using (hagrees s).grave
    | false =>
      obtain ⟨⟨found, later⟩, hrest, hp⟩ := Answer.map_ok.mp h
      obtain ⟨_, rfl⟩ := Prod.mk.inj hp
      rw [List.flatMap_cons]
      exact grave_append (hagrees s).grave (ih hrest)

theorem grave_matching (hJ : J.Uniform) (hagrees : J.Agrees) {keyword : String}
    {names : List String} {parts : List Part} {b : Bool} {reports : List Report}
    (h : (matching J keyword names parts s []).2 = .ok (b, reports)) :
    Grave (reports.flatMap (·.messages)) := by
  unfold matching at h
  split at h
  · cases h
  · obtain ⟨_, rfl⟩ := Prod.mk.inj (Except.ok.inj h)
    intro m hm
    simp at hm
  · exact grave_tries hJ hagrees h

/-- The trials of a type leave no error behind unless the type fails, which is itself one. -/
theorem agrees_types (hJ : J.Uniform) (hagrees : J.Agrees) (keyword : String)
    (names : List String) (parts : List Part) (negated : Bool) :
    (judgeTypes J keyword names parts negated s).outcome.Agrees := by
  rw [Step.outcome_eq (judgeTypes_onto hJ keyword names parts negated s)]
  unfold typesOutcome
  rcases hm : matching J keyword names parts s [] with ⟨notes, f | ⟨matched, reports⟩⟩
  · exact Outcome.agrees_abort _ _
  · have hgrave := grave_matching hJ hagrees (congrArg Prod.snd hm)
    have hpass : Outcome.Agrees ⟨notes, [], .ok true⟩ :=
      ⟨Outcome.agrees_pass.verdict, Outcome.agrees_pass.grave⟩
    cases hk : s.kind with
    | error f => exact Outcome.agrees_abort _ _
    | ok found =>
      dsimp only
      cases negated with
      | true =>
        cases matched with
        | true => exact Outcome.agrees_fail _ rfl
        | false => exact hpass
      | false =>
        cases matched with
        | true => exact hpass
        | false =>
          -- the type itself is an error, whatever its trials found
          refine ⟨?_, ?_⟩
          · intro b h
            obtain rfl : false = b := Except.ok.inj h
            exact (isClean_cons_of_error rfl).symm
          · intro m hm hc
            rcases List.mem_cons.mp hm with rfl | hm
            · rfl
            · exact hgrave m hm hc

theorem agrees_parts (hJ : J.Uniform) (hagrees : J.Agrees) (parts : List Part) :
    (judgeParts J "extends" parts s).outcome.Agrees := by
  apply Step.agrees_all (hJ.map parts _)
  intro step hstep
  obtain ⟨p, _, rfl⟩ := List.mem_map.mp hstep
  exact hagrees _

theorem agrees_dependencies (hJ : J.Uniform) (hagrees : J.Agrees)
    (required : List (String × List String)) (schemas : Members) :
    (judgeDependencies J required schemas s).outcome.Agrees := by
  unfold judgeDependencies
  split
  · apply Step.agrees_all (uniform_dependencySteps hJ required schemas s _)
    intro step hstep
    rcases List.mem_append.mp hstep with hstep | hstep
    · obtain ⟨r, _, rfl⟩ := List.mem_map.mp hstep
      unfold judgeRequired
      dsimp only
      split
      · split
        · exact Step.agrees_answer
        · exact Step.agrees_fail rfl
      · exact Step.agrees_answer
    · obtain ⟨m, _, rfl⟩ := List.mem_map.mp hstep
      unfold judgeDependent
      split
      · exact hagrees _
      · exact Step.agrees_answer
  · exact Step.agrees_answer

theorem agrees_reference (hagrees : J.Agrees) (ref : String) :
    (judgeReference e J ref s).outcome.Agrees := by
  unfold judgeReference
  split
  · split
    · exact Step.agrees_fail rfl
    · exact Step.agrees_abort _
  · split
    · split
      · exact Step.agrees_abort _
      · exact Step.agrees_fail rfl
    · exact hagrees _

end Logic

namespace Keyword

/-- The logic of every keyword logs an error exactly when it says no. -/
theorem agrees_outcome {e : Setting} {J : Judge} (hJ : J.Uniform) (hagrees : J.Agrees) (s : Site)
    (node : Members) (k : Keyword) : (k.outcome e J s node).Agrees := by
  unfold outcome
  split
  · rename_i l hl
    cases makes_of_build hl with
    | test t => exact Logic.agrees_judgeTest t
    | unknownFormat name => exact Logic.agrees_unknownFormat k.name name
    | types negated => exact Logic.agrees_types hJ hagrees _ _ _ negated
    | extending => exact Logic.agrees_parts hJ hagrees _
    | dependencies => exact Logic.agrees_dependencies hJ hagrees _ _
    | reference => exact Logic.agrees_reference hagrees _
  · exact Outcome.agrees_pass

end Keyword

namespace Setting

variable {e : Setting} {J : Judge}

theorem agrees_descent (hJ : J.Uniform) (hagrees : J.Agrees) (kind : Kind) (s : Site) :
    (Checker.descent e J kind s).Agrees := by
  unfold Checker.descent
  split
  · cases hjobs : Job.ofSite kind s with
    | error f =>
      unfold Checker.runChildren
      rw [hjobs]
      exact Step.agrees_abort f
    | ok jobs =>
      obtain ⟨ns, h | h⟩ := Checker.outcome_runChildren e hJ hjobs
      · rw [h]
        apply Outcome.Agrees.after
        apply Outcome.agrees_all
        intro o ho
        obtain ⟨j, _, rfl⟩ := List.mem_map.mp ho
        exact hagrees _
      · rw [h]
        apply Outcome.Agrees.after
        apply Outcome.agrees_all
        intro o ho
        obtain ⟨j, _, rfl⟩ := List.mem_map.mp ho
        exact (hagrees _).apart
  · exact Outcome.agrees_pass

theorem agrees_round (hv : e.vocabulary = .known) (hJ : J.Uniform) (hagrees : J.Agrees) :
    (e.round J).Agrees := by
  intro s
  have hround := round_cases hv hJ s
  generalize (e.round J s).outcome = o at hround
  cases hround with
  | shape _ hd => exact Outcome.agrees_fail _ hd.level
  | nil => exact Outcome.agrees_pass
  | foreign => exact Outcome.agrees_abort _ _
  | unbuilt _ _ _ _ hd => exact Outcome.agrees_fail _ hd.level
  | @built node kind =>
    apply Outcome.Agrees.after
    apply Outcome.Agrees.andThen
    · apply Outcome.agrees_all
      intro o ho
      obtain ⟨k, _, rfl⟩ := List.mem_map.mp ho
      exact Keyword.agrees_outcome hJ hagrees s node k
    · exact agrees_descent hJ hagrees kind s

theorem agrees_judge (hv : e.vocabulary = .known) (fuel : Nat) : (e.judge fuel).Agrees := by
  induction fuel with
  | zero => exact fun _ => Step.agrees_abort _
  | succ fuel ih => exact agrees_round hv (e.uniform_judge fuel) ih

end Setting

namespace FaultReport

variable {level : Severity} {collapse : Bool}

/-- What holds of a report while the findings `taken` are collected into it: its threshold lets
errors through, it is a success as far as they are clean, and it is none once a place is marked. -/
structure Collected (level : Severity) (taken : List Diagnostic) (state : FaultReport × Report) :
    Prop where
  level : state.2.level = level
  success : state.2.isSuccess = isClean taken
  marked : state.1.ignored ≠ [] → state.2.isSuccess = false

/-- A message below the threshold is no error. -/
theorem isSuccess_log (hlevel : Severity.error.reaches level) {r : Report} (hr : r.level = level)
    (d : Diagnostic) : (r.log d).isSuccess = (r.isSuccess && isClean [d]) := by
  have hclean : isClean [d] = !d.level.reaches .error := by simp [isClean]
  rw [hclean]
  unfold Report.log
  split
  · simp [Report.isSuccess, Report.add]
  · rename_i hbelow
    -- the threshold lets errors through, so what it keeps out is none
    have hno : d.level.reaches .error = false := by
      rw [hr] at hbelow
      simp only [Severity.reaches, decide_eq_true_eq] at hlevel hbelow
      simp only [Severity.reaches, decide_eq_false_iff_not]
      omega
    simp [hno]

theorem level_log (r : Report) (d : Diagnostic) : (r.log d).level = r.level := by
  unfold Report.log
  split <;> rfl

theorem collected_log (hlevel : Severity.error.reaches level) {taken : List Diagnostic}
    {state : FaultReport × Report} (h : Collected level taken state) (d : Diagnostic)
    {faults : FaultReport}
    (hfaults : faults.ignored ≠ [] → (state.2.log d).isSuccess = false) :
    Collected level (taken ++ [d]) (faults, state.2.log d) := by
  refine ⟨?_, ?_, hfaults⟩
  · rw [level_log, h.level]
  · rw [isSuccess_log hlevel h.level, h.success, isClean_append]

/-- One step of collecting. A complaint is dropped only when a place is marked, and a place is
marked only for a complaint that was taken. -/
theorem collected_step (hlevel : Severity.error.reaches level) {taken : List Diagnostic}
    {state : FaultReport × Report} (h : Collected level taken state) {d : Diagnostic}
    (hd : d.isConstruction → d.level = .error) :
    Collected level (taken ++ [d]) (collectStep collapse state d) := by
  obtain ⟨faults, target⟩ := state
  have hkeep : faults.ignored ≠ [] → (target.log d).isSuccess = false := by
    intro hmarked
    have hfail : target.isSuccess = false := h.marked hmarked
    rw [isSuccess_log hlevel h.level, hfail, Bool.false_and]
  unfold collectStep
  dsimp only
  split
  · rename_i l hcons hschema
    have herror : isClean [d] = false := isClean_cons_of_error (hd hcons)
    split
    · rename_i hdrop
      -- a complaint is dropped only because of an earlier one
      have hmarked : faults.ignored ≠ [] := by
        simp only [Bool.and_eq_true, isIgnored] at hdrop
        obtain ⟨region, hregion, _⟩ := List.any_eq_true.mp hdrop.2
        exact List.ne_nil_of_mem hregion
      have hfail : target.isSuccess = false := h.marked hmarked
      refine ⟨h.level, ?_, h.marked⟩
      rw [isClean_append, herror, Bool.and_false]
      exact hfail
    · apply collected_log hlevel h d
      intro _
      rw [isSuccess_log hlevel h.level, herror, Bool.and_false]
  · exact collected_log hlevel h d hkeep

theorem collected_foldl (hlevel : Severity.error.reaches level) {taken found : List Diagnostic}
    (hfound : Grave found) {state : FaultReport × Report} (h : Collected level taken state) :
    Collected level (taken ++ found) (found.foldl (collectStep collapse) state) := by
  -- the findings are taken one by one, so what was taken grows at its end
  induction found generalizing taken state with
  | nil => simpa using h
  | cons d ds ih =>
    obtain ⟨hd, hds⟩ := List.forall_mem_cons.mp hfound
    have hstep : Collected level (taken ++ [d]) (collectStep collapse state d) :=
      collected_step hlevel h hd
    have hnext := ih hds hstep
    rwa [List.append_assoc] at hnext

/-- Collecting findings loses no error, whether repeated complaints are dropped or not. -/
theorem isSuccess_collect (hlevel : Severity.error.reaches level) {found : List Diagnostic}
    (hfound : Grave found) :
    (collect found ⟨level, []⟩ collapse).2.isSuccess = isClean found := by
  have hstart : Collected level [] (({}, ⟨level, []⟩) : FaultReport × Report) := by
    refine ⟨rfl, rfl, ?_⟩
    intro h
    exact absurd rfl h
  exact (collected_foldl hlevel hfound hstart).success

end FaultReport

namespace Validator

variable {schema : Value} {o : Options} {documents : Option Documents} {baseUri : String}
  {store : Members} {v : Validator} {x : Value} {r : Result}

/-- A result is valid exactly if its report is a success. -/
theorem isSuccess_report (hlevel : Severity.error.reaches o.reportLevel)
    (hmake : make schema .known o documents baseUri store = .ok v)
    (h : (v.validate x).2 = .ok r) : r.report.isSuccess = r.isValid := by
  obtain ⟨b, hb, rfl⟩ := validate_ok h
  have hset : v.setting.vocabulary = .known ∧ v.setting.options = o := by
    obtain ⟨d, l, rfl⟩ := eq_of_make hmake
    exact ⟨rfl, rfl⟩
  have hagrees := Setting.agrees_judge hset.1 (v.setting.fuelFor (v.site x)) (v.site x)
  rw [resultOf_isValid, hagrees.verdict b hb]
  unfold resultOf
  rw [hset.2]
  exact FaultReport.isSuccess_collect hlevel hagrees.grave

end Validator

namespace Config

theorem issuesOf_eq_nil {r : Report} : issuesOf r = [] ↔ r.isSuccess := by
  simp [issuesOf, Report.isSuccess]

/-- A configuration that is rejected has an issue to show for it. -/
theorem issues_ne_nil {c : Value} {issues : List Issue} (h : check c = .ok (.rejected issues)) :
    issues ≠ [] := by
  cases c with
  | obj members =>
    simp only [check, Answer.do_ok] at h
    -- only that there are issues matters, not what the version adds to them
    obtain ⟨v, hmake, r, hr, later, _, h⟩ := h
    have hlevel : Severity.error.reaches ({} : Options).reportLevel := by decide
    have hsuccess := Validator.isSuccess_report hlevel hmake hr
    have hresult := Except.ok.inj h
    split at hresult
    · cases hresult
    · rename_i hissues
      obtain rfl := Outcome.rejected.inj hresult
      intro hnil
      obtain ⟨hreport, _⟩ := List.append_eq_nil_iff.mp hnil
      have hvalid : r.isValid = true := by
        rw [← hsuccess]
        exact issuesOf_eq_nil.mp hreport
      apply hissues
      rw [hnil, hvalid]
      rfl
  | _ =>
    obtain rfl := Outcome.rejected.inj (Except.ok.inj h)
    exact List.cons_ne_nil _ _

end Config

namespace Validator

/-- For every schema, all documents and all options under which errors are reported, a result is
valid exactly if its report holds no error; so no configuration is rejected without an issue. -/
theorem isValid_eq_isSuccess :
    (∀ (schema : Value) (o : Options) (documents : Option Documents) (baseUri : String)
      (store : Members) (v : Validator) (x : Value) (r : Result),
      Severity.error.reaches o.reportLevel →
      make schema .known o documents baseUri store = .ok v →
      (v.validate x).2 = .ok r → r.isValid = r.report.isSuccess) ∧
    ∀ (c : Value) (issues : List Issue),
      Config.check c = .ok (.rejected issues) → issues ≠ [] := by
  refine ⟨?_, ?_⟩
  · intro schema o documents baseUri store v x r hlevel hmake h
    exact (isSuccess_report hlevel hmake h).symm
  · intro c issues h
    exact Config.issues_ne_nil h

/-- A failed alternative leaves its error in the report, one that another makes up for does not. -/
theorem isValid_eq_isSuccess_alternatives :
    let schema : Value := .obj [("type", .arr [.str "string", .obj [("minimum", .int 3)]])]
    let o : Options := ⟨2, 1, true, .error⟩
    ∃ v r s, make schema .known o none "" [] = .ok v ∧
      (v.validate (.int 1)).2 = .ok r ∧ r.isValid = r.report.isSuccess ∧ r.report.size = 2 ∧
      (v.validate (.int 5)).2 = .ok s ∧ s.isValid = s.report.isSuccess ∧ s.report.size = 0 := by
  intro schema o
  refine ⟨_, _, _, rfl, rfl, ?_, rfl, rfl, ?_, rfl⟩
  · exact isValid_eq_isSuccess.1 schema o none "" [] _ (.int 1) _ (by decide) rfl rfl
  · exact isValid_eq_isSuccess.1 schema o none "" [] _ (.int 5) _ (by decide) rfl rfl

end Validator

end Conform
