import Conform.Proofs.Collapse
import Conform.Proofs.Parallel

/-!
Thresholds. How severe a message must be to be reported is no matter while a value is judged and
while its faults are collected: the report is what is left of a report of everything. An enclosing
report takes from each report what reaches its own threshold, call after call, and nothing from a
call that fails.
-/
namespace Conform

namespace FaultReport

/-- What a step does with a message is the same for all targets. -/
theorem collectStep_onto (collapse : Bool) (faults : FaultReport) (d : Diagnostic) :
    ∃ (next : FaultReport) (more : List Diagnostic), ∀ target : Report,
      collectStep collapse (faults, target) d = (next, target.logAll more) := by
  cases hd : d.failedAt with
  | none => exact ⟨faults, [d], fun target => collectStep_of_none collapse (faults, target) hd⟩
  | some l =>
    cases hdrop : collapse && faults.isIgnored (.location l) with
    | true =>
      refine ⟨faults, [], fun target => ?_⟩
      rw [collectStep_of_some collapse (faults, target) hd, if_pos hdrop, Report.logAll_nil]
    | false =>
      refine ⟨(faults.mark (.location l)).add d, [d], fun target => ?_⟩
      rw [collectStep_of_some collapse (faults, target) hd, if_neg (Bool.eq_false_iff.mp hdrop)]
      rfl

/-- By induction on the messages: the faults do not depend on the target, and neither does what it
is offered. -/
theorem collect_onto (source : List Diagnostic) (collapse : Bool) :
    ∃ (faults : FaultReport) (offered : List Diagnostic), ∀ target : Report,
      collect source target collapse = (faults, target.logAll offered) := by
  induction source using List.reverseRecOn with
  | nil => exact ⟨{}, [], fun target => rfl⟩
  | append_singleton source d ih =>
    obtain ⟨faults, offered, hsource⟩ := ih
    obtain ⟨next, more, hstep⟩ := collectStep_onto collapse faults d
    refine ⟨next, offered ++ more, fun target => ?_⟩
    calc
      collect (source ++ [d]) target collapse
          = collectStep collapse (collect source target collapse) d := List.foldl_concat ..
      _ = collectStep collapse (faults, target.logAll offered) d := by rw [hsource]
      _ = (next, target.logAll (offered ++ more)) := by rw [hstep, Report.logAll_append]

end FaultReport

namespace Checker

variable {e : Setting} {o : Options} {σ : Scheduler}

/-- Of the options, only the number of children that a pool is worth is looked at. -/
theorem runChildrenUnder_options (ho : o.parallelMinChildren = e.options.parallelMinChildren)
    (J : Judge) (kind : Kind) (s : Site) :
    runChildrenUnder σ { e with options := o } J kind s = runChildrenUnder σ e J kind s := by
  unfold runChildrenUnder
  simp only [ho]

mutual

theorem runUnder_options (ho : o.parallelMinChildren = e.options.parallelMinChildren)
    (J : Judge) : ∀ c : Checker,
    c.runUnder σ { e with options := o } J = c.runUnder σ e J
  | .always => rfl
  | .never none => rfl
  | .never (some _) => rfl
  | .single keyword l s => l.run_options e o J keyword s
  | .all cs => runAllUnder_options ho J cs
  | .container kind c s => by
    rw [runUnder, runUnder_options ho J c, runChildrenUnder_options ho J kind s, runUnder]
  | .stray _ => rfl

theorem runAllUnder_options (ho : o.parallelMinChildren = e.options.parallelMinChildren)
    (J : Judge) : ∀ cs : List Checker,
    runAllUnder σ { e with options := o } J cs = runAllUnder σ e J cs
  | [] => rfl
  | c :: cs => by
    rw [runAllUnder, runUnder_options ho J c, runAllUnder_options ho J cs, runAllUnder]

end

end Checker

/-- Options that differ in more than this are judged alike, whatever the scheduler does. -/
theorem Setting.judgeUnder_options {e : Setting} {o : Options}
    (ho : o.parallelMinChildren = e.options.parallelMinChildren) (σ : Scheduler) (fuel : Nat) :
    judgeUnder σ { e with options := o } fuel = e.judgeUnder σ fuel := by
  induction fuel with
  | zero => rfl
  | succ fuel ih =>
    funext s j
    rcases hc : Checker.forSite e.vocabulary s with ⟨notes, f | c⟩ <;>
      simp only [judgeUnder, roundUnder, ih, hc, Checker.runUnder_options ho]

/-- The result with what reaches a threshold of its report. -/
def Result.reaching (l : Severity) (r : Result) : Result :=
  { r with report := ⟨l, r.report.messages.filter (·.level.reaches l)⟩ }

namespace Validator

/-- The validator with another threshold for its reports. -/
def reporting (v : Validator) (l : Severity) : Validator :=
  { v with setting := { v.setting with options := { v.setting.options with reportLevel := l } } }

/-- The results of the calls that did not fail. -/
def returned (answers : List (Except Fault Result)) : List Result :=
  answers.filterMap Except.toOption

variable {v : Validator}

theorem resultOf_reporting (v : Validator) (l : Severity) (b : Bool) (found : List Diagnostic) :
    (v.reporting l).resultOf b found = ((v.reporting .debug).resultOf b found).reaching l := by
  obtain ⟨faults, offered, hcollect⟩ :=
    FaultReport.collect_onto found v.setting.options.collapseRepeats
  have hresult (m : Severity) : (v.reporting m).resultOf b found =
      ⟨b, (⟨m, []⟩ : Report).logAll offered, faults⟩ := by
    simp only [resultOf, reporting, hcollect]
  rw [hresult, hresult, Report.logAll_debug, Report.logAll_eq]
  rfl

/-- A call with a threshold and one without find the same, and differ in what is reported of it. -/
theorem validateUnder_reporting (σ : Scheduler) (v : Validator) (l : Severity) (x : Value) :
    (v.reporting l).validateUnder σ x =
      ((v.reporting .debug).validateUnder σ x).map (Result.reaching l) := by
  have hjudge (m : Severity) : (v.reporting m).setting.judgeUnder σ
      ((v.reporting m).setting.fuelFor ((v.reporting m).site x)) ((v.reporting m).site x) =
      v.setting.judgeUnder σ (v.setting.fuelFor (v.site x)) (v.site x) := by
    have hoptions := Setting.judgeUnder_options (e := v.setting)
      (o := { v.setting.options with reportLevel := m }) rfl σ (v.setting.fuelFor (v.site x))
    exact congrFun hoptions (v.site x)
  unfold validateUnder
  rw [hjudge, hjudge]
  rcases v.setting.judgeUnder σ (v.setting.fuelFor (v.site x)) (v.site x) ⟨⟨.debug, []⟩, []⟩ with
    ⟨j, f | b⟩
  · rfl
  · exact congrArg Except.ok (resultOf_reporting v l b j.report.messages)

theorem validate_reporting (v : Validator) (l : Severity) (x : Value) :
    ((v.reporting l).validate x).2 =
      ((v.reporting .debug).validate x).2.map (Result.reaching l) := by
  rw [← validateUnder_inTurn, ← validateUnder_inTurn]
  exact validateUnder_reporting .inTurn v l x

/-- Without regard to the scheduler, if every judge of the vocabulary is blind to the pool. -/
theorem validateUnder_scheduler (hv : v.setting.vocabulary.Blind) {σ τ : Scheduler} {m n : Nat}
    (hσ : σ.Lawful m) (hτ : τ.Lawful n) (x : Value) :
    v.validateUnder σ x = v.validateUnder τ x := by
  have hleft := validateUnder_eq hv hσ v.schema v.setting.options v.location x
  have hright := validateUnder_eq hv hτ v.schema v.setting.options v.location x
  exact hleft.trans hright.symm

/-- By induction on the calls: each is answered as if it were the only one, and the enclosing report
is offered the reports of those that return, one after the other. -/
theorem validateAll_eq (v : Validator) (enclosing : Report) (xs : List Value) :
    v.validateAll enclosing xs =
      (enclosing.logAll ((returned (xs.map fun x => (v.validate x).2)).flatMap (·.report.messages)),
        xs.map fun x => (v.validate x).2) := by
  induction xs generalizing enclosing with
  | nil => rfl
  | cons x xs ih =>
    rw [validateAll, List.map_cons, returned]
    cases hx : (v.validate x).2 with
    | error f =>
      have hnothing : (Except.error f : Except Fault Result).toOption = none := rfl
      rw [List.filterMap_cons_none hnothing]
      simp only [ih, returned]
    | ok r =>
      have hresult : (Except.ok r : Except Fault Result).toOption = some r := rfl
      rw [List.filterMap_cons_some hresult, List.flatMap_cons, Report.logAll_append]
      simp only [ih, returned]

theorem returned_append (as bs : List (Except Fault Result)) :
    returned (as ++ bs) = returned as ++ returned bs :=
  List.filterMap_append

/-- A validator is asked about any values, one after the other, and each report is folded into one
enclosing report; some calls may fail. Each is answered as if it were the only one. With another
threshold and another enclosing report, the same calls return, with the same verdicts, the same
faults and the same ignored regions, and each report is what reaches the threshold of the report of
everything. In the end the enclosing report has what it had and, call by call, what reaches its own
threshold of the reports that were returned. A call that fails leaves it as it was, and without that
call the others would have done the same.

None of this depends on how a pool lets its workers get on; with the known keywords, and others that
do not look for a pool, not even if it lets them get on differently each time. -/
theorem threshold_only_filters (v : Validator) (l : Severity) (enclosing other : Report)
    (xs : List Value) :
    let w := v.reporting l
    let run := w.validateAll enclosing xs
    let full := (v.reporting .debug).validateAll other xs
    run.2 = (xs.map fun x => (w.validate x).2) ∧
    run.2 = full.2.map (Except.map (Result.reaching l)) ∧
    run.1 = ⟨enclosing.level, enclosing.messages ++ (returned run.2).flatMap fun r =>
      r.report.messages.filter (·.level.reaches enclosing.level)⟩ ∧
    (∀ (before after : List Value) (x : Value) (f : Fault),
      xs = before ++ x :: after → (w.validate x).2 = .error f →
      (w.validateAll enclosing (before ++ [x])).1 = (w.validateAll enclosing before).1 ∧
      run.1 = (w.validateAll enclosing (before ++ after)).1 ∧
      run.2 = (w.validateAll enclosing before).2 ++ .error f :: (w.validateAll enclosing after).2) ∧
    (∀ x, w.validateUnder .inTurn x = (w.validate x).2) ∧
    (∀ (σ : Scheduler) (x : Value), w.validateUnder σ x =
      ((v.reporting .debug).validateUnder σ x).map (Result.reaching l)) ∧
    ((∀ entry ∈ v.setting.vocabulary.entries,
        entry ∈ Vocabulary.known.entries ∨ entry.builder.Blind) →
      ∀ (σ τ : Scheduler) (m n : Nat) (x : Value), σ.Lawful m → τ.Lawful n →
        w.validateUnder σ x = ((v.reporting .debug).validateUnder τ x).map (Result.reaching l)) := by
  intro w run full
  have hrun : run = _ := validateAll_eq w enclosing xs
  have hfull : full = _ := validateAll_eq (v.reporting .debug) other xs
  have hdebug (σ : Scheduler) (x : Value) : w.validateUnder σ x =
      ((v.reporting .debug).validateUnder σ x).map (Result.reaching l) :=
    validateUnder_reporting σ v l x
  refine ⟨?_, ?_, ?_, ?_, validateUnder_inTurn w, hdebug, ?_⟩
  · rw [hrun]
  · rw [hrun, hfull, List.map_map]
    exact List.map_congr_left fun x _ => validate_reporting v l x
  · rw [hrun, Report.logAll_eq, List.filter_flatMap]
  · intro before after x f hxs hx
    have hskip (as bs : List Value) : returned ((as ++ x :: bs).map fun x => (w.validate x).2) =
        returned ((as ++ bs).map fun x => (w.validate x).2) := by
      rw [List.map_append, List.map_cons, hx, List.map_append, returned_append, returned_append]
      rfl
    refine ⟨?_, ?_, ?_⟩
    · rw [validateAll_eq, validateAll_eq, hskip, List.append_nil]
    · rw [hrun, validateAll_eq, hxs, hskip]
    · rw [hrun, validateAll_eq, validateAll_eq, hxs, List.map_append, List.map_cons, hx]
  · intro hv σ τ m n x hσ hτ
    have hblind : (v.reporting .debug).setting.vocabulary.Blind := Vocabulary.blind_of_known hv
    rw [hdebug, validateUnder_scheduler hblind hσ hτ]

end Validator

end Conform
