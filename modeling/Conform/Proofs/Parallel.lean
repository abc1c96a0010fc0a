import Conform.Proofs.Composition
import Conform.Proofs.Pool
import Conform.Proofs.Unpooled

/-!
Judging with a pool. Where a site has a pool and enough children, their judging is left to a
scheduler, which may let the workers get on in any order; the scheduler that takes one child after
the other is that of the plain judge. With a blind vocabulary no child ever asks for the pool, and
what is found and answered is the same for all schedulers, and the same as without a pool.
-/
namespace Conform

/-- What becomes of a journal when the steps for the children of a site are left to a pool. As no
two fan-outs find the same notes, each may go its own way. -/
abbrev Scheduler := Site → List Step → Step

namespace Scheduler

/-- A scheduler that always does what a pool with some workers can do: it notes that it fans out,
submits all steps, and ends as some run of the pool does. -/
def Lawful (σ : Scheduler) (workers : Nat) : Prop :=
  ∀ s steps j, (∀ step ∈ steps, step.Uniform) → ∃ p : Pool,
    Pool.Runs workers
      (.submit (steps.map Step.outcome) (j.note [Checker.fanOutNote s steps.length])) p ∧
      p.Ended ∧ σ s steps j = p.result

/-- Runs each step apart when the one before it is collected. -/
def inTurn : Scheduler := fun s steps j =>
  Step.all (steps.map Step.apart) (j.note [Checker.fanOutNote s steps.length])

theorem lawful_inTurn {workers : Nat} (hworkers : 0 < workers) : inTurn.Lawful workers := by
  intro s steps j hsteps
  obtain ⟨p, hruns, hended, hresult⟩ := Pool.runs_in_turn hworkers (steps.map Step.outcome)
    (j.note [Checker.fanOutNote s steps.length]) true
  refine ⟨p, hruns, hended, ?_⟩
  have hapart := Step.uniform_all (Step.uniform_map_apart hsteps)
  rw [hresult, inTurn, hapart, Step.outcome_all_apart hsteps, Outcome.onto,
    Outcome.verdict_all_apart]
  cases (Outcome.all (steps.map Step.outcome)).verdict <;> rfl

/-- However a pool runs, some scheduler lets it run like that. -/
theorem exists_lawful_of_runs {workers : Nat} (hworkers : 0 < workers) (s : Site)
    (steps : List Step) (j : Journal) {p : Pool}
    (hruns : Pool.Runs workers
      (.submit (steps.map Step.outcome) (j.note [Checker.fanOutNote s steps.length])) p)
    (hended : p.Ended) : ∃ σ : Scheduler, σ.Lawful workers ∧ σ s steps j = p.result := by
  classical
  -- the run that is given, and everywhere else one job after the other
  refine ⟨fun s' steps' j' =>
    if s' = s ∧ steps' = steps ∧ j' = j then p.result else inTurn s' steps' j', ?_, ?_⟩
  · intro s' steps' j' hsteps'
    by_cases h : s' = s ∧ steps' = steps ∧ j' = j
    · obtain ⟨rfl, rfl, rfl⟩ := h
      exact ⟨p, hruns, hended, if_pos ⟨rfl, rfl, rfl⟩⟩
    · obtain ⟨q, hq, hqended, hresult⟩ := lawful_inTurn hworkers s' steps' j' hsteps'
      exact ⟨q, hq, hqended, (if_neg h).trans hresult⟩
  · exact if_pos ⟨rfl, rfl, rfl⟩

end Scheduler

namespace Checker

/-- Judges what lies below a site, leaving it to a scheduler where the site has a pool and there is
enough of it. -/
def runChildrenUnder (σ : Scheduler) (e : Setting) (judge : Judge) (kind : Kind) (s : Site) :
    Step :=
  match Job.ofSite kind s with
  | .error f => Step.abort f
  | .ok jobs =>
    let steps := jobs.map fun job => judge (job.site s)
    if s.pooled && !jobs.isEmpty && e.options.parallelMinChildren ≤ jobs.length then σ s steps
    else Step.all steps

mutual

def runUnder (σ : Scheduler) (e : Setting) (judge : Judge) : Checker → Step
  | .always => Step.answer true
  | .never none => Step.answer false
  | .never (some d) => Step.fail d
  | .single keyword logic s => logic.run e judge keyword s
  | .all members => runAllUnder σ e judge members
  | .container kind node s =>
    Step.both (runUnder σ e judge node) (runChildrenUnder σ e judge kind s)
  | .stray t => Step.abort (.notChecker t)

def runAllUnder (σ : Scheduler) (e : Setting) (judge : Judge) : List Checker → Step
  | [] => Step.answer true
  | c :: cs => Step.both (runUnder σ e judge c) (runAllUnder σ e judge cs)

end

theorem runChildrenUnder_inTurn (e : Setting) (J : Judge) (kind : Kind) (s : Site) :
    runChildrenUnder .inTurn e J kind s = runChildren e J kind s := by
  unfold runChildrenUnder runChildren
  cases Job.ofSite kind s with
  | error f => rfl
  | ok jobs =>
    have hturn : Scheduler.inTurn s (jobs.map fun job => J (job.site s)) = fun j =>
        Step.all ((jobs.map fun job => J (job.site s)).map Step.apart)
          (j.note [fanOutNote s jobs.length]) := by
      funext j
      rw [Scheduler.inTurn, List.length_map]
    simp only [hturn]

mutual

theorem runUnder_inTurn (e : Setting) (J : Judge) : ∀ c : Checker,
    c.runUnder .inTurn e J = c.run e J
  | .always => rfl
  | .never none => rfl
  | .never (some _) => rfl
  | .single _ _ _ => rfl
  | .all cs => runAllUnder_inTurn e J cs
  | .container kind c s => by
    rw [runUnder, runUnder_inTurn e J c, runChildrenUnder_inTurn e J kind s, run]
  | .stray _ => rfl

theorem runAllUnder_inTurn (e : Setting) (J : Judge) : ∀ cs : List Checker,
    runAllUnder .inTurn e J cs = runAll e J cs
  | [] => rfl
  | c :: cs => by
    rw [runAllUnder, runUnder_inTurn e J c, runAllUnder_inTurn e J cs, runAll]

end

end Checker

namespace Setting

def roundUnder (σ : Scheduler) (e : Setting) (inner : Judge) : Judge := fun s j =>
  match Checker.forSite e.vocabulary s with
  | (notes, .error f) => (j.note notes, .error f)
  | (notes, .ok c) => c.runUnder σ e inner (j.note notes)

/-- Judges a site, nesting at most `fuel` dispatches, with the children of sites that have a pool
left to a scheduler. -/
def judgeUnder (σ : Scheduler) (e : Setting) : Nat → Judge
  | 0, _ => Step.abort .outOfSteps
  | fuel + 1, s => e.roundUnder σ (e.judgeUnder σ fuel) s

theorem judgeUnder_inTurn (e : Setting) (fuel : Nat) : e.judgeUnder .inTurn fuel = e.judge fuel := by
  induction fuel with
  | zero => rfl
  | succ fuel ih =>
    funext s j
    rcases hc : Checker.forSite e.vocabulary s with ⟨notes, f | c⟩ <;>
      simp only [judgeUnder, judge, roundUnder, round, ih, hc, Checker.runUnder_inTurn]

end Setting

namespace Outcome

theorem all_apart_of_ok {os : List Outcome} {b : Bool} (h : (all os).verdict = .ok b) :
    all (os.map apart) = all os := by
  have hapart : os.map apart = os.map id := by
    apply List.map_congr_left
    intro o ho
    obtain ⟨y, hy⟩ := (verdict_all_ok h).1 o ho
    exact apart_of_ok hy
  rw [hapart, List.map_id]

end Outcome

namespace Step

/-- A step that answers as an outcome says, and finds what it says if there is an answer. What it
notes is left open. -/
def ComesTo (a : Step) (o : Outcome) : Prop :=
  ∀ j, (a j).2 = o.verdict ∧
    ∀ x, o.verdict = .ok x → (a j).1.report = j.report.logAll o.messages

variable {a b : Step} {o p : Outcome}

theorem Uniform.comesTo (h : a.Uniform) : a.ComesTo a.outcome := by
  intro j
  rw [h j]
  exact ⟨rfl, fun _ _ => rfl⟩

theorem ComesTo.both (ha : a.ComesTo o) (hb : b.ComesTo p) :
    (Step.both a b).ComesTo (o.andThen p) := by
  intro j
  -- the second step starts from whatever notes the first one left behind
  obtain ⟨hverdict, hreport⟩ := ha j
  rcases haj : a j with ⟨k, f | x⟩
  · rw [haj] at hverdict
    have ho : o.verdict = .error f := hverdict.symm
    simp only [Step.both, haj, Outcome.andThen, ho]
    exact ⟨trivial, by simp⟩
  · rw [haj] at hverdict hreport
    have ho : o.verdict = .ok x := hverdict.symm
    have hk : k.report = j.report.logAll o.messages := hreport x ho
    obtain ⟨hverdict', hreport'⟩ := hb k
    rcases hbk : b k with ⟨l, g | y⟩
    · rw [hbk] at hverdict'
      have hp : p.verdict = .error g := hverdict'.symm
      simp only [Step.both, haj, hbk, Outcome.andThen, ho, hp]
      exact ⟨rfl, by simp [Except.map]⟩
    · rw [hbk] at hverdict' hreport'
      have hp : p.verdict = .ok y := hverdict'.symm
      have hl : l.report = k.report.logAll p.messages := hreport' y hp
      simp only [Step.both, haj, hbk, Outcome.andThen, ho, hp]
      refine ⟨rfl, ?_⟩
      intro z _
      rw [hl, hk, Report.logAll_append]

theorem comesTo_all {as : List Step} {os : List Outcome} (h : List.Forall₂ ComesTo as os) :
    (Step.all as).ComesTo (Outcome.all os) := by
  induction h with
  | nil => exact fun j => ⟨rfl, fun _ _ => rfl⟩
  | cons ha _ ih => exact ha.both ih

end Step

/-- What a scheduler makes of steps is what they come to in turn. -/
theorem Scheduler.Lawful.comesTo {σ : Scheduler} {workers : Nat} (hσ : σ.Lawful workers) (s : Site)
    {steps : List Step} (hsteps : ∀ step ∈ steps, step.Uniform) :
    (σ s steps).ComesTo (Step.all steps).outcome := by
  intro j
  obtain ⟨p, hruns, hended, hresult⟩ := hσ s steps j hsteps
  obtain ⟨hreport, hverdict⟩ := Pool.result_of_runs hruns hended
  rw [Step.outcome_all hsteps, hresult]
  refine ⟨hverdict, ?_⟩
  intro x hx
  -- all have answered, so no report was lost
  rw [hreport, Outcome.all_apart_of_ok hx]
  rfl

/-- A judge that does without a pool what another one does. -/
def Judge.SameUnpooled (K J : Judge) : Prop := ∀ s : Site, K s.unpooled = J s.unpooled

/-- A judge that comes to what another one comes to without a pool. -/
def Judge.ComesTo (K J : Judge) : Prop := ∀ s : Site, (K s).ComesTo (J s.unpooled).outcome

theorem Judge.SameUnpooled.apply {K J : Judge} (h : K.SameUnpooled J) {t : Site}
    (ht : t.pooled = false) : K t = J t := by
  rw [← Site.unpooled_of ht]
  exact h t

namespace Logic

variable {e : Setting} {o : Options} {K J : Judge}

/-- No logic looks at the options. -/
theorem run_options (e : Setting) (o : Options) (J : Judge) (keyword : String) (l : Logic)
    (s : Site) : l.run { e with options := o } J keyword s = l.run e J keyword s := by
  cases l <;> rfl

theorem run_unpooled (hK : K.SameUnpooled J) (keyword : String) (l : Logic) (s : Site) :
    l.run { e with options := o } K keyword s.unpooled = l.run e J keyword s.unpooled := by
  rw [run_options]
  apply run_congr
  intro t ht
  apply hK.apply
  rw [pooled_of_calls ht]
  exact Bool.and_false _

/-- Blind logic comes to the same without a pool. -/
theorem comesTo_run (hJ : J.Uniform) (hK : K.SameUnpooled J) (hKJ : K.ComesTo J)
    (keyword : String) {l : Logic} (hl : l.Blind) (s : Site) :
    (l.run { e with options := o } K keyword s).ComesTo (l.run e J keyword s.unpooled).outcome := by
  rw [run_options]
  have hsame (h : l.run e K keyword s = l.run e J keyword s.unpooled) :
      (l.run e K keyword s).ComesTo (l.run e J keyword s.unpooled).outcome := by
    rw [h]
    exact (l.uniform_run e hJ keyword s.unpooled).comesTo
  cases l with
  | test t =>
    apply hsame
    have hfinding : t.finding s = t.finding s.unpooled := by cases t <;> rfl
    simp only [run, judgeTest, hfinding]
  | unknownFormat name => exact hsame rfl
  | types own names parts negated =>
    -- trials are made without a pool anyway
    apply hsame
    have hcalls := run_congr e keyword (.types own names parts negated) s (J := K) (K := J)
      fun t ht => hK.apply (pooled_of_calls ht)
    rw [hcalls]
    rfl
  | extending parts =>
    simp only [run, judgeParts]
    rw [Step.outcome_all (hJ.map parts _), List.map_map]
    exact Step.comesTo_all (forall₂_map fun p _ => hKJ _)
  | dependencies required schemas =>
    simp only [run, judgeDependencies]
    have hvalue : s.unpooled.value = s.value := rfl
    rw [hvalue]
    cases s.value with
    | obj members =>
      rw [Step.outcome_all (uniform_dependencySteps hJ required schemas s.unpooled members),
        List.map_append, List.map_map, List.map_map]
      apply Step.comesTo_all
      apply List.rel_append
      · exact forall₂_map fun d _ => (uniform_judgeRequired s members d).comesTo
      · apply forall₂_map
        intro d _
        change (judgeDependent K s members d).ComesTo
          (judgeDependent J s.unpooled members d).outcome
        unfold judgeDependent
        split
        · exact hKJ _
        · exact (Step.uniform_answer true).comesTo
    | _ => exact (Step.uniform_answer true).comesTo
  | reference ref =>
    simp only [run, judgeReference]
    have hlocation : s.unpooled.location = s.location := rfl
    have htrail : s.unpooled.trail = s.trail := rfl
    have hpath : s.unpooled.path = s.path := rfl
    rw [hlocation, htrail, hpath]
    split
    · split
      · exact (Step.uniform_fail _).comesTo
      · exact (Step.uniform_abort _).comesTo
    · split
      · split
        · exact (Step.uniform_abort _).comesTo
        · exact (Step.uniform_fail _).comesTo
      · exact hKJ _
  | told answer =>
    apply hsame
    simp only [run, hl s]

end Logic

namespace Checker

variable {e : Setting} {o : Options} {σ : Scheduler} {K J : Judge}

/-- The steps for the children of a site, none of which has a pool. -/
theorem steps_eq (hK : K.SameUnpooled J) (jobs : List Job) (s : Site) :
    (jobs.map fun job => K (job.site s)) = jobs.map fun job => J (job.site s.unpooled) := by
  apply List.map_congr_left
  intro job _
  exact hK.apply rfl

theorem runChildrenUnder_unpooled (hK : K.SameUnpooled J) (kind : Kind) (s : Site) :
    runChildrenUnder σ { e with options := o } K kind s.unpooled =
      runChildren e J kind s.unpooled := by
  unfold runChildrenUnder runChildren
  cases Job.ofSite kind s.unpooled with
  | error f => rfl
  | ok jobs =>
    have hpool : s.unpooled.pooled = false := rfl
    simp only [hpool, Bool.false_and, Bool.false_eq_true, ↓reduceIte, steps_eq hK]
    rfl

mutual

/-- A checker without a pool does not ask the scheduler, nor look at the options. -/
theorem runUnder_unpooled (hK : K.SameUnpooled J) : ∀ c : Checker,
    c.unpooled.runUnder σ { e with options := o } K = c.unpooled.run e J
  | .always => rfl
  | .never none => rfl
  | .never (some _) => rfl
  | .single keyword l s => l.run_unpooled hK keyword s
  | .all cs => runAllUnder_unpooled hK cs
  | .container kind c s => by
    rw [unpooled, runUnder, runUnder_unpooled hK c, runChildrenUnder_unpooled hK kind s, run]
  | .stray _ => rfl

theorem runAllUnder_unpooled (hK : K.SameUnpooled J) : ∀ cs : List Checker,
    runAllUnder σ { e with options := o } K (unpooledAll cs) = runAll e J (unpooledAll cs)
  | [] => rfl
  | c :: cs => by
    rw [unpooledAll, runAllUnder, runUnder_unpooled hK c, runAllUnder_unpooled hK cs, runAll]

end

theorem comesTo_runChildrenUnder {workers : Nat} (hσ : σ.Lawful workers) (hJ : J.Uniform)
    (hK : K.SameUnpooled J) (kind : Kind) (s : Site) :
    (runChildrenUnder σ { e with options := o } K kind s).ComesTo
      (runChildren e J kind s.unpooled).outcome := by
  have hjobs : Job.ofSite kind s.unpooled = Job.ofSite kind s := rfl
  have hpool : s.unpooled.pooled = false := rfl
  unfold runChildrenUnder runChildren
  rw [hjobs]
  cases Job.ofSite kind s with
  | error f => exact (Step.uniform_abort f).comesTo
  | ok jobs =>
    -- the steps are those of the other judge, so the scheduler is handed uniform ones
    simp only [hpool, Bool.false_and, Bool.false_eq_true, ↓reduceIte, steps_eq hK]
    have hsteps := hJ.map jobs fun job => job.site s.unpooled
    split
    · exact hσ.comesTo s hsteps
    · exact (Step.uniform_all hsteps).comesTo

mutual

/-- Under a lawful scheduler a blind checker comes to what it comes to without a pool. -/
theorem comesTo_runUnder {workers : Nat} (hσ : σ.Lawful workers) (hJ : J.Uniform)
    (hK : K.SameUnpooled J) (hKJ : K.ComesTo J) : ∀ c : Checker, c.Blind →
    (c.runUnder σ { e with options := o } K).ComesTo (c.unpooled.run e J).outcome
  | .always, _ => (Step.uniform_answer true).comesTo
  | .never none, _ => (Step.uniform_answer false).comesTo
  | .never (some d), _ => (Step.uniform_fail d).comesTo
  | .single keyword _ s, h => Logic.comesTo_run hJ hK hKJ keyword h s
  | .all cs, h => comesTo_runAllUnder hσ hJ hK hKJ cs h
  | .container kind c s, h => by
    have hnode := comesTo_runUnder hσ hJ hK hKJ c h
    have hchildren := comesTo_runChildrenUnder (e := e) (o := o) hσ hJ hK kind s
    rw [unpooled, run, Step.outcome_both (uniform_run e hJ _) (uniform_runChildren e hJ kind _)]
    exact hnode.both hchildren
  | .stray t, _ => (Step.uniform_abort (.notChecker t)).comesTo

theorem comesTo_runAllUnder {workers : Nat} (hσ : σ.Lawful workers) (hJ : J.Uniform)
    (hK : K.SameUnpooled J) (hKJ : K.ComesTo J) : ∀ cs : List Checker, BlindAll cs →
    (runAllUnder σ { e with options := o } K cs).ComesTo (runAll e J (unpooledAll cs)).outcome
  | [], _ => (Step.uniform_answer true).comesTo
  | c :: cs, h => by
    have hc := comesTo_runUnder hσ hJ hK hKJ c h.1
    have hcs := comesTo_runAllUnder hσ hJ hK hKJ cs h.2
    rw [unpooledAll, runAll, Step.outcome_both (uniform_run e hJ _) (uniform_runAll e hJ _)]
    exact hc.both hcs

end

end Checker

namespace Setting

variable {e : Setting}

/-- No scheduler and no options make a difference where there is no pool. -/
theorem judgeUnder_unpooled (hv : e.vocabulary.Blind) (o : Options) (σ : Scheduler) (fuel : Nat) :
    Judge.SameUnpooled (judgeUnder σ { e with options := o } fuel) (e.judge fuel) := by
  induction fuel with
  | zero => exact fun _ => rfl
  | succ fuel ih =>
    intro s
    funext j
    simp only [judgeUnder, judge, roundUnder, round]
    rcases hc : Checker.forSite e.vocabulary s.unpooled with ⟨notes, f | c⟩
    · rfl
    · have hsame : c.unpooled = c :=
        Checker.unpooled_of_forSite hv (s := s.unpooled) rfl (congrArg Prod.snd hc)
      simp only
      rw [← hsame, Checker.runUnder_unpooled ih c]

/-- Under every lawful scheduler, judging comes to what it comes to without a pool. -/
theorem judgeUnder_comesTo (hv : e.vocabulary.Blind) (o : Options) {σ : Scheduler} {workers : Nat}
    (hσ : σ.Lawful workers) (fuel : Nat) :
    Judge.ComesTo (judgeUnder σ { e with options := o } fuel) (e.judge fuel) := by
  induction fuel with
  | zero => exact fun _ => (Step.uniform_abort _).comesTo
  | succ fuel ih =>
    intro s
    have hJ := e.uniform_judge fuel
    obtain ⟨hsame, hblind⟩ := Checker.forSite_unpooled hv s
    -- with and without a pool, dispatch makes the same of the site, but for the notes
    rcases hc : Checker.forSite e.vocabulary s with ⟨notes, f | c⟩ <;>
      rcases hc' : Checker.forSite e.vocabulary s.unpooled with ⟨notes', r⟩ <;>
      rw [hc, hc'] at hsame
    · obtain rfl : r = .error f := hsame
      rw [judge, outcome_round_error hc']
      intro j
      simp only [judgeUnder, roundUnder, hc]
      exact ⟨trivial, by simp⟩
    · obtain rfl : r = .ok c.unpooled := hsame
      have hblind : c.Blind := hblind c (congrArg Prod.snd hc)
      have hrun := c.comesTo_runUnder (e := e) (o := o) hσ hJ
        (judgeUnder_unpooled hv o σ fuel) ih hblind
      rw [judge, outcome_round hJ hc']
      intro j
      simp only [judgeUnder, roundUnder, hc]
      exact hrun (j.note notes)

end Setting

/-- The options for a pool of some workers, for at least some children at a time. -/
def Options.onPool (o : Options) (workers least : Nat) : Options :=
  { o with maxWorkers := workers, parallelMinChildren := least }

namespace Validator

variable {e : Setting}

/-- The result of validating a value with the children of the value left to a scheduler. -/
def validateUnder (σ : Scheduler) (v : Validator) (value : Value) : Except Fault Result :=
  match v.setting.judgeUnder σ (v.setting.fuelFor (v.site value)) (v.site value)
      ⟨⟨.debug, []⟩, []⟩ with
  | (_, .error f) => .error f
  | (j, .ok isValid) => .ok (v.resultOf isValid j.report.messages)

theorem validateUnder_inTurn (v : Validator) (x : Value) :
    v.validateUnder .inTurn x = (v.validate x).2 := by
  unfold validateUnder validate findings Setting.judgeSite
  rw [Setting.judgeUnder_inTurn]
  rcases v.setting.judge (v.setting.fuelFor (v.site x)) (v.site x) ⟨⟨.debug, []⟩, []⟩ with
    ⟨j, f | b⟩ <;> rfl

/-- Under a lawful scheduler, validation comes to what judging the root without a pool comes to. -/
theorem validateUnder_eq (hv : e.vocabulary.Blind) {σ : Scheduler} {workers : Nat}
    (hσ : σ.Lawful workers) (schema : Value) (o : Options) (l : Location) (x : Value) :
    let v : Validator := ⟨schema, { e with options := o }, l⟩
    let found := (e.judge (e.fuelFor (v.site x)) (v.site x).unpooled).outcome
    v.validateUnder σ x = found.verdict.map fun b => v.resultOf b found.messages := by
  intro v found
  have hfuel : v.setting.fuelFor (v.site x) = e.fuelFor (v.site x) := rfl
  have hcomes : Step.ComesTo (v.setting.judgeUnder σ (e.fuelFor (v.site x)) (v.site x)) found :=
    Setting.judgeUnder_comesTo hv o hσ _ _
  obtain ⟨hverdict, hreport⟩ := hcomes ⟨⟨.debug, []⟩, []⟩
  unfold validateUnder
  rw [hfuel]
  rcases hj : v.setting.judgeUnder σ (e.fuelFor (v.site x)) (v.site x) ⟨⟨.debug, []⟩, []⟩ with
    ⟨j, f | b⟩
  · rw [hj] at hverdict
    rw [← hverdict]
    rfl
  · rw [hj] at hverdict hreport
    have hmessages := hreport b hverdict.symm
    rw [Report.logAll_debug, List.nil_append] at hmessages
    simp only at hmessages
    simp only [hmessages, ← hverdict, Except.map]

/-- With the known keywords and any others that are blind, neither the number of workers, nor that
of the children that they are worth, nor the order in which the workers get on makes a difference
to the result: verdict, report and faults are the same. Nothing that comes up in judging a child
has a pool, though references, dependencies and what is extended keep that of the root; so no child
asks for workers while it occupies one, and a pool with a worker is never stuck and always ends. -/
theorem validation_ignores_pool (o : Options)
    (hv : ∀ entry ∈ e.vocabulary.entries,
      entry ∈ Vocabulary.known.entries ∨ entry.builder.Blind) :
    (∀ (schema x : Value) (l : Location) (w₁ m₁ w₂ m₂ : Nat) (σ₁ σ₂ : Scheduler),
      σ₁.Lawful w₁ → σ₂.Lawful w₂ →
        validateUnder σ₁ ⟨schema, { e with options := o.onPool w₁ m₁ }, l⟩ x =
          validateUnder σ₂ ⟨schema, { e with options := o.onPool w₂ m₂ }, l⟩ x) ∧
    (∀ (s t : Site) (job : Job), e.Reaches (job.site s) t → t.pooled = false ∧
      (∀ c, (Checker.forSite e.vocabulary t).2 = .ok c → ∀ u ∈ c.sites, u.pooled = false) ∧
      ∀ (o : Options) (σ : Scheduler) (fuel : Nat),
        Setting.judgeUnder σ { e with options := o } fuel t = e.judge fuel t) ∧
    (∀ (l : Logic) (s t : Site), l.keepsPool = true → t ∈ l.calls e s → t.pooled = s.pooled) ∧
    (∀ (workers : Nat) (jobs : List Outcome) (j : Journal) (p : Pool), 0 < workers →
      Pool.Runs workers (.submit jobs j) p → p.Ended ∨ ∃ q, Pool.Move workers p q) ∧
    ∀ workers : Nat, WellFounded fun q p : Pool => Pool.Move workers p q := by
  have hblind : e.vocabulary.Blind := Vocabulary.blind_of_known hv
  refine ⟨?_, ?_, ?_, ?_, Pool.wellFounded_move⟩
  · intro schema x l w₁ m₁ w₂ m₂ σ₁ σ₂ h₁ h₂
    -- what the root comes to without a pool mentions neither number
    rw [validateUnder_eq hblind h₁, validateUnder_eq hblind h₂]
    rfl
  · intro s t job ht
    have hpool : t.pooled = false := Setting.pooled_of_reaches hblind (s := job.site s) rfl ht
    refine ⟨hpool, ?_, ?_⟩
    · intro c hc u hu
      rw [← Checker.unpooled_of_forSite hblind hpool hc] at hu
      exact c.pooled_of_mem_sites hu
    · intro o σ fuel
      exact (Setting.judgeUnder_unpooled hblind o σ fuel).apply hpool
  · intro l s t hl ht
    rw [Logic.pooled_of_calls ht, hl, Bool.true_and]
  · intro workers jobs j p hworkers _
    by_cases hended : p.Ended
    · exact .inl hended
    · exact .inr (Pool.exists_move hworkers hended)

/-- Two workers with one further keyword, as they come, and none at all. -/
theorem validation_ignores_pool_elements :
    let denier : Builder := fun _ =>
      ([], .ok (.logic (.told fun t => ([t.diagnostic "odd" (some "odd") []], .ok (.bool false)))))
    let e : Setting :=
      { vocabulary := Vocabulary.known.insert "odd" [.integer] denier, documents := {} }
    let schema : Value := .obj [("items", .obj [("odd", .null), ("type", .str "string")])]
    let x : Value := .arr [.int 1, .str "a", .int 2]
    let v (workers least : Nat) : Validator :=
      ⟨schema, { e with options := ({} : Options).onPool workers least }, {}⟩
    Scheduler.inTurn.Lawful 2 ∧
    ∃ r, ((v 1 8).validate x).2 = .ok r ∧
      (∀ σ : Scheduler, σ.Lawful 2 → (v 2 1).validateUnder σ x = .ok r) ∧
      r.isValid = false ∧
      r.report.messages.map (fun m => (m.path.tokens, m.keyword)) =
        [(["0"], some "type"), (["0"], some "odd"), (["2"], some "type"), (["2"], some "odd")] := by
  intro denier e schema x v
  have hdenier : denier.Blind := by
    refine ⟨fun _ => rfl, ?_⟩
    intro s b hb
    obtain rfl := Except.ok.inj hb
    exact fun _ => rfl
  have hv : ∀ entry ∈ e.vocabulary.entries,
      entry ∈ Vocabulary.known.entries ∨ entry.builder.Blind := by
    intro entry hentry
    refine (Vocabulary.mem_put hentry).imp id ?_
    intro h
    rw [h]
    exact hdenier
  have hserial : ((v 1 8).validate x).2 = .ok _ := rfl
  refine ⟨Scheduler.lawful_inTurn (by decide), _, hserial, ?_, rfl, by decide +kernel⟩
  intro σ hσ
  have hsame := (validation_ignores_pool {} hv).1 schema x {} 2 1 1 8 σ .inTurn hσ
    (Scheduler.lawful_inTurn (by decide))
  exact hsame.trans ((validateUnder_inTurn (v 1 8) x).trans hserial)

end Validator

end Conform
