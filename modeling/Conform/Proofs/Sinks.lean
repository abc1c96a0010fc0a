import Conform.Proofs.Bound
import Conform.Proofs.Fuel
import Conform.Proofs.Unpooled

/-!
Reports as sinks. Where no context is pooled, the run of a bound checker on a desk is the run of the
same checker on a journal: it writes what the checker finds to the report that it is given, as far
as that takes it, and to none of the others that were there before. So what a checker answers and
finds is its own, whichever report it is run against and how often.
-/
namespace Conform

namespace DeskStep

/-- A step on the desk that writes an outcome to a report: it logs the messages there, and changes
nothing else that was on the desk before. -/
def Writes (ds : DeskStep) (r : Nat) (o : Outcome) : Prop :=
  ∀ d : Desk, r < d.length → ∃ new : Desk,
    ds d = (d.setReport r ((d.reportAt r).logAll o.messages) ++ new, o.verdict)

variable {a b : DeskStep} {r : Nat} {o p : Outcome}

theorem Writes.takes (h : a.Writes r o) {d d' : Desk} {v : Except Fault Bool}
    (hr : r < d.length) (ha : a d = (d', v)) : v = o.verdict ∧ d.Takes r o.messages d' := by
  obtain ⟨new, hd⟩ := h d hr
  obtain ⟨rfl, rfl⟩ := Prod.mk.inj (ha.symm.trans hd)
  exact ⟨rfl, Desk.takes_setReport hr⟩

theorem writes_nothing {v : Except Fault Bool} {notes : List Note} :
    Writes (fun d => (d, v)) r ⟨notes, [], v⟩ := by
  intro d hr
  refine ⟨[], ?_⟩
  rw [Report.logAll_nil, Desk.setReport_reportAt hr, List.append_nil]

theorem writes_on {s : Step} (hs : s.Uniform) : (s.on r).Writes r s.outcome := by
  intro d _
  refine ⟨[], ?_⟩
  simp only [Step.on, hs _, Outcome.onto, List.append_nil]

theorem Writes.both (ha : a.Writes r o) (hb : b.Writes r p) :
    (DeskStep.both a b).Writes r (o.andThen p) := by
  intro d hr
  obtain ⟨new, hd⟩ := ha d hr
  have hlength := Desk.length_setReport d r ((d.reportAt r).logAll o.messages)
  cases hv : o.verdict with
  | error f =>
    rw [hv] at hd
    refine ⟨new, ?_⟩
    simp only [DeskStep.both, hd, Outcome.andThen, hv]
  | ok x =>
    rw [hv] at hd
    -- the second step finds the report as the first one left it
    obtain ⟨later, hd'⟩ := hb (d.setReport r ((d.reportAt r).logAll o.messages) ++ new)
      (by rw [List.length_append]; omega)
    rw [Desk.setReport_append (by omega), Desk.reportAt_append (by omega),
      Desk.reportAt_setReport hr, Desk.setReport_setReport, ← Report.logAll_append] at hd'
    refine ⟨new ++ later, ?_⟩
    simp only [DeskStep.both, hd, hd', Outcome.andThen, hv, List.append_assoc]
    cases p.verdict <;> rfl

theorem writes_all {as : List DeskStep} {os : List Outcome}
    (h : List.Forall₂ (fun a o => a.Writes r o) as os) :
    (DeskStep.all as).Writes r (Outcome.all os) := by
  induction h with
  | nil => exact writes_nothing
  | cons ha _ ih => exact ha.both ih

end DeskStep

/-- A judge on the desk that writes, of every context without a pool, what a judge of sites finds. -/
def DeskJudge.Writes (judge : DeskJudge) (J : Judge) : Prop :=
  ∀ c r, c.site.pooled = false → (judge c r).Writes r (J c.site).outcome

namespace Logic

variable {e : Setting} {J : Judge} {judge : DeskJudge} {c : Context} {r : Nat}

/-- A trial puts reports at the end of the desk, the first of which holds what it found. -/
theorem judge_trial (hw : judge.Writes J) (schema : Value) (location : Location) (d : Desk) :
    ∃ own : Desk, 0 < own.length ∧
      judge (c.scratch schema location d.length) d.length (d ++ [.plain ⟨.debug, []⟩]) =
        (d ++ own, (J (c.site.scratch schema location)).outcome.verdict) ∧
      Desk.reportAt (d ++ own) d.length =
        ⟨.debug, (J (c.site.scratch schema location)).outcome.messages⟩ := by
  have hwrites := hw (c.scratch schema location d.length) d.length rfl
  obtain ⟨new, hd⟩ := hwrites (d ++ [.plain ⟨.debug, []⟩]) (by
    rw [List.length_append, List.length_singleton]
    omega)
  rw [Desk.reportAt_concat, Report.logAll_debug, Desk.setReport_concat, List.append_assoc] at hd
  refine ⟨_, ?_, hd, ?_⟩
  · rw [List.length_append, List.length_singleton]
    omega
  · rw [← List.append_assoc, Desk.reportAt_append (by simp), Desk.reportAt_concat]
    rfl

/-- The trials on the desk are those of the journal: they come to the same, and the reports that
they leave behind are those that were kept there. -/
theorem triesOn_eq (hJ : J.Uniform) (hw : judge.Writes J) (ts : List (Value × Location))
    (d : Desk) :
    match (tries J (ts.map fun t => c.site.scratch t.1 t.2) []).2 with
    | .error f => ∃ new, triesOn judge c ts d = (d ++ new, .error f)
    | .ok (b, reports) => ∃ new trials, triesOn judge c ts d = (d ++ new, .ok (b, trials)) ∧
        (∀ i ∈ trials, d.length ≤ i) ∧ trials.map (Desk.reportAt (d ++ new)) = reports := by
  -- each trial puts reports at the end of the desk, so the desk is generalized
  induction ts generalizing d with
  | nil => exact ⟨[], [], by rw [triesOn, List.append_nil], by simp, rfl⟩
  | cons t ts ih =>
    obtain ⟨own, hpos, htrial, hown⟩ := judge_trial (c := c) hw t.1 t.2 d
    rw [List.map_cons, tries_cons hJ]
    have hlength : d.length < (d ++ own).length := by
      rw [List.length_append]
      omega
    cases hv : (J (c.site.scratch t.1 t.2)).outcome.verdict with
    | error f =>
      rw [hv] at htrial
      exact ⟨own, by simp only [triesOn, htrial]⟩
    | ok x =>
      rw [hv] at htrial
      cases x with
      | true =>
        refine ⟨own, [d.length], by simp only [triesOn, htrial], by simp, ?_⟩
        rw [List.map_singleton, hown]
      | false =>
        have hrest := ih (d ++ own)
        simp only [Except.bind, Bool.false_eq_true, ↓reduceIte]
        -- the reports of the later trials stand behind that of this one
        rcases hlater : (tries J (ts.map fun t => c.site.scratch t.1 t.2) []).2 with f | ⟨b, reports⟩
        · rw [hlater] at hrest
          obtain ⟨new, hnew⟩ := hrest
          simp only [hlater, Except.map]
          refine ⟨own ++ new, ?_⟩
          simp only [triesOn, htrial, hnew, List.append_assoc]
        · rw [hlater] at hrest
          obtain ⟨new, trials, hnew, hbehind, hreports⟩ := hrest
          simp only [hlater, Except.map]
          refine ⟨own ++ new, d.length :: trials, ?_, ?_, ?_⟩
          · simp only [triesOn, htrial, hnew, List.append_assoc]
          · intro i hi
            rcases List.mem_cons.mp hi with rfl | hi
            · exact le_rfl
            · have hi := hbehind i hi
              omega
          · rw [← List.append_assoc, List.map_cons, hreports, Desk.reportAt_append hlength, hown]

/-- Whether a type is there is found out without touching any report that was there before. -/
theorem matchingOn_eq (hJ : J.Uniform) (hw : judge.Writes J) (keyword : String)
    (names : List String) (parts : List Part) (d : Desk) :
    match (matching J keyword names parts c.site []).2 with
    | .error f => ∃ new, matchingOn judge keyword names parts c d = (d ++ new, .error f)
    | .ok (b, reports) => ∃ new trials,
        matchingOn judge keyword names parts c d = (d ++ new, .ok (b, trials)) ∧
        (∀ i ∈ trials, d.length ≤ i) ∧ trials.map (Desk.reportAt (d ++ new)) = reports := by
  cases hn : isOfType c.site.value names with
  | error f =>
    simp only [matching, hn]
    exact ⟨[], by simp only [matchingOn, hn, List.append_nil]⟩
  | ok b =>
    cases b with
    | true =>
      simp only [matching, hn]
      exact ⟨[], [], by simp only [matchingOn, hn, List.append_nil], by simp, rfl⟩
    | false =>
      have htries := triesOn_eq (c := c) hJ hw
        (parts.map fun p => (p.schema, partLocation c.site keyword p)) d
      rw [List.map_map] at htries
      simp only [matching, matchingOn, hn]
      exact htries

/-- The reports of the trials are taken over by a report that is none of them. -/
theorem foldl_absorb_trials {d new : Desk} {trials : List Nat} {reports : List Report}
    (hr : r < d.length) (hbehind : ∀ i ∈ trials, d.length ≤ i)
    (hreports : trials.map (Desk.reportAt (d ++ new)) = reports) (m : Diagnostic) :
    trials.foldl (fun d trial => d.absorb trial r) (Desk.log (d ++ new) r m) =
      d.setReport r ((d.reportAt r).logAll (m :: reports.flatMap (·.messages))) ++ new := by
  have hlong : r < (d ++ new).length := by
    rw [List.length_append]
    omega
  have hothers : ∀ i ∈ trials, r ≠ i := by
    intro i hi
    have hi := hbehind i hi
    omega
  have hmessages : (trials.flatMap fun i =>
      ((Desk.log (d ++ new) r m).reportAt i).messages) = reports.flatMap (·.messages) := by
    rw [← hreports, List.flatMap_map]
    apply List.flatMap_congr
    intro i hi
    rw [Desk.log, Desk.reportAt_setReport_of_ne (hothers i hi)]
  have hlength : r < (Desk.log (d ++ new) r m).length := by
    rw [Desk.log, Desk.length_setReport]
    exact hlong
  rw [Desk.foldl_absorb hlength hothers, hmessages]
  rw [Desk.log, Desk.reportAt_setReport hlong, Desk.setReport_setReport,
    Desk.setReport_append hr, Desk.reportAt_append hr]
  rfl

theorem writes_types (hJ : J.Uniform) (hw : judge.Writes J) (keyword : String)
    (names : List String) (parts : List Part) (negated : Bool) :
    (typesOn judge keyword names parts negated c r).Writes r
      (typesOutcome J keyword names parts negated c.site) := by
  intro d hr
  have hmatching := matchingOn_eq (c := c) hJ hw keyword names parts d
  unfold typesOn typesOutcome
  rcases hm : matching J keyword names parts c.site [] with ⟨notes, f | ⟨matched, reports⟩⟩
  · rw [hm] at hmatching
    obtain ⟨new, hd⟩ := hmatching
    refine ⟨new, ?_⟩
    simp only [hd, Report.logAll_nil, Desk.setReport_reportAt hr]
  · rw [hm] at hmatching
    obtain ⟨new, trials, hd, hbehind, hreports⟩ := hmatching
    simp only [hd]
    have hlog (m : Diagnostic) : Desk.log (d ++ new) r m =
        d.setReport r ((d.reportAt r).logAll [m]) ++ new := by
      rw [Desk.log, Desk.reportAt_append hr, Desk.setReport_append hr]
      rfl
    refine ⟨new, ?_⟩
    cases hk : c.site.kind with
    | error f => simp only [Report.logAll_nil, Desk.setReport_reportAt hr]
    | ok found =>
      -- only a type that is not there takes over what its trials found
      cases negated <;> cases matched <;>
        simp only [Bool.false_eq_true, ↓reduceIte, Report.logAll_nil, Desk.setReport_reportAt hr,
          hlog]
      rw [← hlog, foldl_absorb_trials hr hbehind hreports]

theorem writes_dependencies (hJ : J.Uniform) (hw : judge.Writes J)
    (hc : c.site.pooled = false) (required : List (String × List String)) (schemas : Members) :
    (dependenciesOn judge required schemas c r).Writes r
      (judgeDependencies J required schemas c.site).outcome := by
  unfold dependenciesOn judgeDependencies
  cases hv : c.site.value with
  | obj members =>
    have hrequired : ∀ d ∈ required, ((judgeRequired c.site members d).on r).Writes r
        (judgeRequired c.site members d).outcome :=
      fun d _ => DeskStep.writes_on (uniform_judgeRequired c.site members d)
    have hdependent : ∀ d ∈ schemas, (dependentOn judge c r members d).Writes r
        (judgeDependent J c.site members d).outcome := by
      intro d _
      unfold dependentOn judgeDependent
      by_cases hd : Members.has members d.1
      · simp only [hd, ↓reduceIte]
        exact hw _ r hc
      · simp only [hd, Bool.false_eq_true, ↓reduceIte]
        exact DeskStep.writes_nothing
    have hsteps := uniform_dependencySteps hJ required schemas c.site members
    rw [Step.outcome_all hsteps, List.map_append, List.map_map, List.map_map]
    apply DeskStep.writes_all
    exact List.rel_append (forall₂_map hrequired) (forall₂_map hdependent)
  | _ => exact DeskStep.writes_nothing

theorem writes_reference (hw : judge.Writes J) (hc : c.site.pooled = false) (ref : String) :
    (referenceOn e judge ref c r).Writes r (judgeReference e J ref c.site).outcome := by
  unfold referenceOn judgeReference
  cases hr : e.documents.resolve (.str ref) c.site.location with
  | error f =>
    by_cases hf : f.isReference
    · simp only [hf, ↓reduceIte]
      exact DeskStep.writes_on (Step.uniform_fail _)
    · simp only [hf, Bool.false_eq_true, ↓reduceIte]
      exact DeskStep.writes_nothing
  | ok p =>
    obtain ⟨location, target⟩ := p
    -- a loop ends the chain in one of two ways
    by_cases hloop : (e.loops != .follow && c.site.trail.contains (location, c.site.path)) = true
    · simp only [hloop, ↓reduceIte]
      by_cases hstop : e.loops = .stop
      · simp only [hstop, ↓reduceIte]
        exact DeskStep.writes_nothing
      · simp only [hstop, ↓reduceIte]
        exact DeskStep.writes_on (Step.uniform_fail _)
    · simp only [hloop, Bool.false_eq_true, ↓reduceIte]
      exact hw _ r hc

/-- Whatever context a logic is bound to, it writes what it finds to the report that it is given. -/
theorem writes_runOn (hJ : J.Uniform) (hw : judge.Writes J) (hc : c.site.pooled = false)
    (keyword : String) (l : Logic) :
    (l.runOn e judge keyword c r).Writes r (l.run e J keyword c.site).outcome := by
  cases l with
  | test t => exact DeskStep.writes_on (uniform_judgeTest t c.site)
  | unknownFormat name =>
    intro d hr
    exact ⟨[], by rw [List.append_nil]; rfl⟩
  | types keyword names parts negated =>
    rw [run, Step.outcome_eq (judgeTypes_onto hJ keyword names parts negated c.site)]
    exact writes_types hJ hw keyword names parts negated
  | extending parts =>
    rw [run, judgeParts, Step.outcome_all (hJ.map parts _), List.map_map]
    exact DeskStep.writes_all (forall₂_map fun p _ => hw _ r hc)
  | dependencies required schemas => exact writes_dependencies hJ hw hc required schemas
  | reference ref => exact writes_reference hw hc ref
  | told answer => exact DeskStep.writes_on (uniform_judgeTold keyword (answer c.site))

end Logic

namespace Bound

variable {e : Setting} {J : Judge} {judge : DeskJudge}

theorem writes_childrenOn (hJ : J.Uniform) (hw : judge.Writes J) {c : Context}
    (hc : c.site.pooled = false) (kind : Kind) (r : Nat) :
    (childrenOn e judge kind c r).Writes r (Checker.runChildren e J kind c.site).outcome := by
  unfold childrenOn Checker.runChildren
  cases hjobs : Job.ofSite kind c.site with
  | error f => exact DeskStep.writes_nothing
  | ok jobs =>
    simp only [hc, Bool.false_and, Bool.false_eq_true, ↓reduceIte]
    rw [Step.outcome_all (hJ.map jobs _), List.map_map]
    exact DeskStep.writes_all (forall₂_map fun job _ => hw (c.child job (some r)) r rfl)

mutual

/-- A checker without pools writes what it finds to the report that it is run against. -/
theorem writes_run (hJ : J.Uniform) (hw : judge.Writes J) (r : Nat) : ∀ b : Bound, b.Serial →
    (b.run e judge r).Writes r (b.erase.run e J).outcome
  | .always, _ => DeskStep.writes_nothing
  | .never none, _ => DeskStep.writes_nothing
  | .never (some m), _ => DeskStep.writes_on (Step.uniform_fail m)
  | .single keyword l c, h =>
    Logic.writes_runOn hJ hw (h c (List.mem_singleton.mpr rfl)) keyword l
  | .all bs, h => writes_runAll hJ hw r bs h
  | .container kind b c, h => by
    have hnode := writes_run hJ hw r b fun c' hc' => h c' (List.mem_cons_of_mem _ hc')
    have hchildren := writes_childrenOn (e := e) hJ hw (h c List.mem_cons_self) kind r
    rw [erase, Checker.run, Step.outcome_both (Checker.uniform_run e hJ _)
      (Checker.uniform_runChildren e hJ kind c.site)]
    exact hnode.both hchildren
  | .stray t, _ => DeskStep.writes_nothing

theorem writes_runAll (hJ : J.Uniform) (hw : judge.Writes J) (r : Nat) : ∀ bs : List Bound,
    (∀ c ∈ contextsAll bs, c.site.pooled = false) →
    (runAll e judge bs r).Writes r (Checker.runAll e J (eraseAll bs)).outcome
  | [], _ => DeskStep.writes_nothing
  | b :: bs, h => by
    have hb := writes_run hJ hw r b fun c hc => h c (List.mem_append_left _ hc)
    have hbs := writes_runAll hJ hw r bs fun c hc => h c (List.mem_append_right _ hc)
    rw [eraseAll, Checker.runAll, Step.outcome_both (Checker.uniform_run e hJ _)
      (Checker.uniform_runAll e hJ _)]
    exact hb.both hbs

end

end Bound

namespace Checker

mutual

theorem erase_bindTo (r : Nat) : ∀ c : Checker, (bindTo r c).erase = c
  | .always => rfl
  | .never _ => rfl
  | .single _ _ _ => rfl
  | .all cs => by rw [bindTo, Bound.erase, eraseAll_bindAllTo r cs]
  | .container _ c _ => by rw [bindTo, Bound.erase, erase_bindTo r c]
  | .stray _ => rfl

theorem eraseAll_bindAllTo (r : Nat) : ∀ cs : List Checker, Bound.eraseAll (bindAllTo r cs) = cs
  | [] => rfl
  | c :: cs => by rw [bindAllTo, Bound.eraseAll, erase_bindTo r c, eraseAll_bindAllTo r cs]

end

mutual

theorem site_mem_of_bindTo {r : Nat} {x : Context} : ∀ c : Checker, x ∈ (bindTo r c).contexts →
    x.site ∈ c.sites
  | .single _ _ s, h => by
    rw [List.mem_singleton.mp h]
    exact List.mem_singleton.mpr rfl
  | .all cs, h => site_mem_of_bindAllTo cs h
  | .container _ c s, h => by
    rcases List.mem_cons.mp h with rfl | h
    · exact List.mem_cons_self
    · exact List.mem_cons_of_mem _ (site_mem_of_bindTo c h)
  | .always, h => by simp [bindTo, Bound.contexts] at h
  | .never _, h => by simp [bindTo, Bound.contexts] at h
  | .stray _, h => by simp [bindTo, Bound.contexts] at h

theorem site_mem_of_bindAllTo {r : Nat} {x : Context} : ∀ cs : List Checker,
    x ∈ Bound.contextsAll (bindAllTo r cs) → x.site ∈ sitesAll cs
  | [], h => by simp [bindAllTo, Bound.contextsAll] at h
  | c :: cs, h => by
    rcases List.mem_append.mp h with h | h
    · exact List.mem_append_left _ (site_mem_of_bindTo c h)
    · exact List.mem_append_right _ (site_mem_of_bindAllTo cs h)

end

end Checker

namespace Setting

variable {e : Setting}

theorem serial_of_dispatchOn (hv : e.vocabulary.Blind) {c : Context} {b : Bound}
    (hc : c.site.pooled = false) (h : e.dispatchOn c = .ok b) : b.Serial := by
  obtain ⟨checker, hchecker, rfl⟩ := Answer.map_ok.mp h
  intro x hx
  have hsite := Checker.site_mem_of_bindTo checker hx
  rw [← Checker.unpooled_of_forSite hv hc hchecker] at hsite
  exact checker.pooled_of_mem_sites hsite

theorem writes_roundOn (hv : e.vocabulary.Blind) {J : Judge} {judge : DeskJudge}
    (hJ : J.Uniform) (hw : judge.Writes J) : (e.roundOn judge).Writes (e.round J) := by
  intro c r hc
  rcases hsite : Checker.forSite e.vocabulary c.site with ⟨notes, f | checker⟩
  · have hdispatch : e.dispatchOn c = .error f := by
      simp only [dispatchOn, hsite, Except.map]
    have hnothing : DeskStep.Writes (fun d => (d, .error f)) r ⟨notes.reverse, [], .error f⟩ :=
      DeskStep.writes_nothing
    rw [outcome_round_error hsite]
    intro d hr
    simp only [roundOn, hdispatch]
    exact hnothing d hr
  · have hdispatch : e.dispatchOn c = .ok (checker.bindTo c.report) := by
      simp only [dispatchOn, hsite, Except.map]
    have hserial := serial_of_dispatchOn hv hc hdispatch
    have hrun := Bound.writes_run (e := e) hJ hw r _ hserial
    rw [Checker.erase_bindTo] at hrun
    rw [outcome_round hJ hsite]
    intro d hr
    simp only [roundOn, hdispatch]
    exact hrun d hr

/-- Judging a context without a pool writes, to the report given, what judging its site finds. -/
theorem writes_judgeOn (hv : e.vocabulary.Blind) (fuel : Nat) :
    (e.judgeOn fuel).Writes (e.judge fuel) := by
  induction fuel with
  | zero =>
    intro c r _
    rw [show e.judge 0 c.site = Step.abort .outOfSteps from rfl, Step.outcome_abort]
    exact DeskStep.writes_nothing
  | succ fuel ih => exact writes_roundOn hv (e.uniform_judge fuel) ih

end Setting

namespace Bound

variable {e : Setting} {b : Bound}

/-- Checkers that are built from contexts without a pool, and what is composed of these. -/
inductive Composed (e : Setting) : Bound → Prop where
  | built {c : Context} {b : Bound} (hc : c.site.pooled = false) (hb : e.dispatchOn c = .ok b) :
      Composed e b
  | all {bs : List Bound} (h : ∀ b ∈ bs, Composed e b) : Composed e (.all bs)
  | allOf {bs : List Bound} (h : ∀ b ∈ bs, Composed e b) : Composed e (allOf bs)
  | container {kind : Kind} {b : Bound} {c : Context} (hb : Composed e b)
      (hc : c.site.pooled = false) : Composed e (.container kind b c)

theorem contextsAll_eq_flatMap (bs : List Bound) : contextsAll bs = bs.flatMap contexts := by
  induction bs with
  | nil => rfl
  | cons b bs ih => rw [contextsAll, ih, List.flatMap_cons]

theorem serial_all {bs : List Bound} (h : ∀ b ∈ bs, b.Serial) : (all bs).Serial := by
  intro c hc
  rw [contexts, contextsAll_eq_flatMap] at hc
  obtain ⟨b, hb, hc⟩ := List.mem_flatMap.mp hc
  exact h b hb c hc

theorem serial_allOf {bs : List Bound} (h : ∀ b ∈ bs, b.Serial) : (allOf bs).Serial := by
  match bs, h with
  | [], _ => exact fun c hc => absurd hc List.not_mem_nil
  | [b], h => exact h b (List.mem_singleton.mpr rfl)
  | b :: b' :: bs, h => exact serial_all h

theorem Composed.serial (hv : e.vocabulary.Blind) (hb : b.Composed e) : b.Serial := by
  induction hb with
  | built hc hb => exact Setting.serial_of_dispatchOn hv hc hb
  | all _ ih => exact serial_all ih
  | allOf _ ih => exact serial_allOf ih
  | container _ hc ih => exact List.forall_mem_cons.mpr ⟨hc, ih⟩

/-- Run against a report on a desk, a checker without pools finds what it finds on a journal. -/
theorem writes_run_judgeOn (hv : e.vocabulary.Blind) (hb : b.Serial) (fuel r : Nat) :
    (b.run e (e.judgeOn fuel) r).Writes r (e.runChecker b.erase fuel).outcome :=
  writes_run (e.uniform_judge fuel) (Setting.writes_judgeOn hv fuel) r b hb

/-- What a checker without pools answers and finds is its own: it depends neither on the reports of
its contexts nor on the one that it is run against, which takes of it what reaches its threshold,
while no other report changes; and a second run answers and finds the same. -/
theorem run_settled (hv : e.vocabulary = .known) (hb : b.Composed e) :
    ∃ v ms, ∀ fuel r d d' v', r < d.length →
      b.run e (e.judgeOn fuel) r d = (d', .ok v') →
        v' = v ∧ d.Takes r ms d' ∧
        ∀ r' < d'.length, ∃ d'', b.run e (e.judgeOn fuel) r' d' = (d'', .ok v) ∧
          d'.Takes r' ms d'' := by
  have hblind : e.vocabulary.Blind := by
    rw [hv]
    exact Vocabulary.blind_of_known fun _ hx => .inl hx
  have hwrites := writes_run_judgeOn hblind (hb.serial hblind)
  by_cases hanswers : ∃ n x, (e.runChecker b.erase n).outcome.verdict = .ok x
  · obtain ⟨n, v, hn⟩ := hanswers
    refine ⟨v, (e.runChecker b.erase n).outcome.messages, ?_⟩
    intro fuel r d d' v' hr hrun
    obtain ⟨hverdict, htakes⟩ := (hwrites fuel r).takes hr hrun
    -- whatever fuel it is that lets the checker answer, it answers the same
    have hsame : e.runChecker b.erase fuel = e.runChecker b.erase n :=
      e.runChecker_eq_of_ok hverdict.symm hn
    rw [hsame] at hverdict htakes
    refine ⟨Except.ok.inj (hverdict.trans hn), htakes, ?_⟩
    intro r' hr'
    obtain ⟨new, hagain⟩ := hwrites fuel r' d' hr'
    rw [hsame, hn] at hagain
    exact ⟨_, hagain, Desk.takes_setReport hr'⟩
  · refine ⟨false, [], ?_⟩
    intro fuel r d d' v' hr hrun
    obtain ⟨hverdict, _⟩ := (hwrites fuel r).takes hr hrun
    exact absurd ⟨fuel, v', hverdict.symm⟩ hanswers

/-- A report that only takes errors gets one of two findings, the context's own report both. -/
theorem run_settled_thresholds :
    let e : Setting := { vocabulary := .known, documents := {} }
    let tried : Value := .obj [("enum", .arr [])]
    let schema : Value := .obj [("format", .str "odd"), ("type", .arr [.str "null", tried])]
    let c : Context := ⟨{ schema, value := .str "a" }, 0⟩
    let d : Desk := [.plain ⟨.debug, []⟩, .plain ⟨.error, []⟩]
    ∃ b d' d'' ms, e.dispatchOn c = .ok b ∧
      b.run e (e.judgeOn 2) 1 d = (d', .ok false) ∧ d.Takes 1 ms d' ∧
      b.run e (e.judgeOn 2) 0 d' = (d'', .ok false) ∧ d'.Takes 0 ms d'' ∧
      ms.map Diagnostic.keyword = [some "format", some "type", some "enum"] ∧
      (d''.reportAt 0).messages = ms ∧
      (d''.reportAt 1).messages.map Diagnostic.keyword = [some "type", some "enum"] := by
  intro e tried schema c d
  have hbuilt : e.dispatchOn c = .ok _ := rfl
  obtain ⟨v, ms, h⟩ := run_settled (e := e) rfl (.built rfl hbuilt)
  obtain ⟨rfl, hfirst, hagain⟩ := h 2 1 d _ false (by decide) rfl
  obtain ⟨d'', hrun, hsecond⟩ := hagain 0 (by decide)
  obtain ⟨rfl, _⟩ := Prod.mk.inj hrun
  -- the report that takes everything holds all of the findings
  have hall := hsecond.report.trans (Report.logAll_eq ⟨.debug, []⟩ ms).symm
  rw [Report.logAll_debug] at hall
  have hms := congrArg Report.messages hall
  refine ⟨_, _, _, ms, hbuilt, rfl, hfirst, hrun, hsecond, ?_, hms, by decide +kernel⟩
  rw [show ms = _ from hms.symm]
  decide +kernel

end Bound

end Conform
