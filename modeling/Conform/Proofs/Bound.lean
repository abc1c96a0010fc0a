import Conform.Context
import Conform.Proofs.Calls
import Conform.Proofs.Outcome

/-!
Checkers bound to contexts, and what they do on a desk of reports. A context writes to a report of
its own, but a checker is run against a report that is given; logic hands that one on to the nodes
that it has judged, while trials and isolated children get new reports at the end of the desk.
-/
namespace Conform

namespace Desk

variable {d new : Desk} {i j : Nat}

theorem length_setReport (d : Desk) (i : Nat) (r : Report) : (d.setReport i r).length = d.length :=
  List.length_modify _ _ _

theorem reportAt_append (hi : i < d.length) : reportAt (d ++ new) i = d.reportAt i := by
  simp only [reportAt, List.getElem?_append_left hi]

theorem setReport_append (hi : i < d.length) (r : Report) :
    setReport (d ++ new) i r = d.setReport i r ++ new := by
  apply List.ext_getElem?
  intro k
  have hlength := length_setReport d i r
  by_cases hk : k < d.length
  · rw [List.getElem?_append_left (by omega)]
    simp only [setReport, List.getElem?_modify, List.getElem?_append_left hk]
  · have hne : i ≠ k := by omega
    rw [List.getElem?_append_right (by omega), setReport, List.getElem?_modify_ne _ _ hne,
      List.getElem?_append_right (by omega), hlength]

theorem getElem?_setReport_of_ne (h : i ≠ j) (r : Report) : (d.setReport i r)[j]? = d[j]? :=
  List.getElem?_modify_ne _ _ h

theorem reportAt_setReport (hi : i < d.length) (r : Report) :
    (d.setReport i r).reportAt i = r := by
  have hsheet : d[i]? = some d[i] := List.getElem?_eq_getElem hi
  simp only [reportAt, setReport, List.getElem?_modify_eq, hsheet, Option.map_eq_map,
    Option.map_some, Option.getD_some]
  cases d[i] <;> rfl

theorem reportAt_setReport_of_ne (h : i ≠ j) (r : Report) :
    (d.setReport i r).reportAt j = d.reportAt j := by
  simp only [reportAt, getElem?_setReport_of_ne h]

theorem setReport_setReport (d : Desk) (i : Nat) (r r' : Report) :
    (d.setReport i r).setReport i r' = d.setReport i r' := by
  simp only [setReport, List.modify_modify_eq]
  congr 1
  funext sheet
  cases sheet <;> rfl

theorem setReport_reportAt (hi : i < d.length) : d.setReport i (d.reportAt i) = d := by
  apply List.ext_getElem?
  intro k
  by_cases hk : i = k
  · subst hk
    have hsheet : d[i]? = some d[i] := List.getElem?_eq_getElem hi
    simp only [reportAt, setReport, List.getElem?_modify_eq, hsheet, Option.map_eq_map,
      Option.map_some, Option.getD_some]
    cases d[i] <;> rfl
  · exact getElem?_setReport_of_ne hk _

theorem reportAt_concat (d : Desk) (r : Report) : reportAt (d ++ [.plain r]) d.length = r := by
  have hsheet : (d ++ [Sheet.plain r])[d.length]? = some (.plain r) := List.getElem?_concat_length
  simp only [reportAt, hsheet, Option.map_some, Option.getD_some, Sheet.report]

theorem setReport_concat (d : Desk) (r r' : Report) :
    setReport (d ++ [.plain r]) d.length r' = d ++ [.plain r'] := by
  rw [setReport, List.modify_eq_take_drop, List.take_left, List.drop_left]
  rfl

/-- The second desk is the first one after a report took messages, as far as they reach its
threshold, with no other report changed. There may be new ones. -/
structure Takes (d : Desk) (r : Nat) (ms : List Diagnostic) (d' : Desk) : Prop where
  report : d'.reportAt r = ⟨(d.reportAt r).level,
    (d.reportAt r).messages ++ ms.filter fun m => m.level.reaches (d.reportAt r).level⟩
  others : ∀ k, k < d.length → k ≠ r → d'[k]? = d[k]?

theorem takes_setReport {ms : List Diagnostic} (hi : i < d.length) :
    d.Takes i ms (d.setReport i ((d.reportAt i).logAll ms) ++ new) := by
  have hlength := length_setReport d i ((d.reportAt i).logAll ms)
  refine ⟨?_, ?_⟩
  · rw [reportAt_append (by omega), reportAt_setReport hi, Report.logAll_eq]
  · intro k hk hne
    rw [List.getElem?_append_left (by omega), getElem?_setReport_of_ne (Ne.symm hne)]

/-- Takes what one report holds over into another. -/
def absorb (d : Desk) (source target : Nat) : Desk :=
  d.setReport target ((d.reportAt target).logAll (d.reportAt source).messages)

/-- Reports that are taken over in turn, none of them the target, come to their messages in turn. -/
theorem foldl_absorb {is : List Nat} (hd : i < d.length) (his : ∀ k ∈ is, i ≠ k) :
    is.foldl (fun d k => d.absorb k i) d =
      d.setReport i ((d.reportAt i).logAll (is.flatMap fun k => (d.reportAt k).messages)) := by
  induction is generalizing d with
  | nil => exact (setReport_reportAt hd).symm
  | cons k is ih =>
    obtain ⟨hk, his⟩ := List.forall_mem_cons.mp his
    have hlength : i < (d.absorb k i).length := by
      rw [absorb, length_setReport]
      exact hd
    -- taking over the first leaves those still to come as they are
    have hothers : (is.flatMap fun k' => ((d.absorb k i).reportAt k').messages) =
        is.flatMap fun k' => (d.reportAt k').messages := by
      apply List.flatMap_congr
      intro k' hk'
      rw [absorb, reportAt_setReport_of_ne (his k' hk')]
    rw [List.foldl_cons, ih hlength his, hothers, List.flatMap_cons, Report.logAll_append]
    rw [absorb, reportAt_setReport hd, setReport_setReport]

end Desk

/-- A step on a desk of reports. -/
abbrev DeskStep := Desk → Desk × Except Fault Bool

/-- Judges the site of a context, writing to a report that is given beside it. -/
abbrev DeskJudge := Context → Nat → DeskStep

/-- A step that writes to a report on the desk. -/
def Step.on (s : Step) (r : Nat) : DeskStep := fun d =>
  let (j, verdict) := s ⟨d.reportAt r, []⟩
  (d.setReport r j.report, verdict)

namespace DeskStep

def answer (b : Bool) : DeskStep := fun d => (d, .ok b)

def abort (f : Fault) : DeskStep := fun d => (d, .error f)

/-- Runs two steps and joins their verdicts. -/
def both (a b : DeskStep) : DeskStep := fun d =>
  match a d with
  | (d, .error f) => (d, .error f)
  | (d, .ok x) =>
    match b d with
    | (d, .error f) => (d, .error f)
    | (d, .ok y) => (d, .ok (x && y))

def all : List DeskStep → DeskStep
  | [] => answer true
  | s :: ss => both s (all ss)

end DeskStep

namespace Context

/-- The same value against another schema node, on a given report or else on its own. -/
def under (c : Context) (schema : Value) (location : Location) (report : Option Nat) : Context :=
  ⟨c.site.under schema location, report.getD c.report⟩

def follow (c : Context) (schema : Value) (location : Location) (report : Option Nat) : Context :=
  ⟨c.site.follow schema location, report.getD c.report⟩

/-- A schema node that is only tried, on a report of its own. -/
def scratch (c : Context) (schema : Value) (location : Location) (report : Nat) : Context :=
  ⟨c.site.scratch schema location, report⟩

/-- An element or a member, on a given report or else on its own. -/
def child (c : Context) (job : Job) (report : Option Nat) : Context :=
  ⟨job.site c.site, report.getD c.report⟩

end Context

/-- Checkers as they are built, bound to contexts. -/
inductive Bound where
  | always
  | never (reason : Option Diagnostic)
  | single (keyword : String) (logic : Logic) (context : Context)
  | all (members : List Bound)
  | container (kind : Kind) (node : Bound) (context : Context)
  | stray (typeName : String)

namespace Logic

/-- The trials of schemas, each on a new report that takes everything, up to the first that holds;
with the reports of the trials made. -/
def triesOn (judge : DeskJudge) (c : Context) :
    List (Value × Location) → Desk → Desk × Except Fault (Bool × List Nat)
  | [], d => (d, .ok (false, []))
  | t :: ts, d =>
    match judge (c.scratch t.1 t.2 d.length) d.length (d ++ [.plain ⟨.debug, []⟩]) with
    | (d', .error f) => (d', .error f)
    | (d', .ok true) => (d', .ok (true, [d.length]))
    | (d', .ok false) =>
      match triesOn judge c ts d' with
      | (d', .error f) => (d', .error f)
      | (d', .ok (b, trials)) => (d', .ok (b, d.length :: trials))

def matchingOn (judge : DeskJudge) (keyword : String) (names : List String) (schemas : List Part)
    (c : Context) (d : Desk) : Desk × Except Fault (Bool × List Nat) :=
  match isOfType c.site.value names with
  | .error f => (d, .error f)
  | .ok true => (d, .ok (true, []))
  | .ok false =>
    triesOn judge c (schemas.map fun p => (p.schema, partLocation c.site keyword p)) d

/-- What the trials found is taken over only if the whole fails. -/
def typesOn (judge : DeskJudge) (keyword : String) (names : List String) (schemas : List Part)
    (negated : Bool) (c : Context) (r : Nat) : DeskStep := fun d =>
  match matchingOn judge keyword names schemas c d with
  | (d, .error f) => (d, .error f)
  | (d, .ok (matched, trials)) =>
    match c.site.kind with
    | .error f => (d, .error f)
    | .ok found =>
      if negated then
        if matched then (d.log r (disallowed c.site keyword names found), .ok false)
        else (d, .ok true)
      else if matched then (d, .ok true)
      else
        let d := d.log r (notAllowed c.site keyword names schemas found)
        (trials.foldl (fun d trial => d.absorb trial r) d, .ok false)

def dependentOn (judge : DeskJudge) (c : Context) (r : Nat) (members : Members)
    (d : String × Value) : DeskStep :=
  if members.has d.1 then
    let location := c.site.location.append [.name "dependencies", .name d.1]
    judge (c.under d.2 location (some r)) r
  else DeskStep.answer true

def dependenciesOn (judge : DeskJudge) (required : List (String × List String))
    (schemas : List (String × Value)) (c : Context) (r : Nat) : DeskStep :=
  match c.site.value with
  | .obj members =>
    DeskStep.all ((required.map fun d => (judgeRequired c.site members d).on r) ++
      schemas.map (dependentOn judge c r members))
  | _ => DeskStep.answer true

def referenceOn (e : Setting) (judge : DeskJudge) (ref : String) (c : Context) (r : Nat) :
    DeskStep :=
  match e.documents.resolve (.str ref) c.site.location with
  | .error f =>
    if f.isReference then (Step.fail (unresolved c.site ref f)).on r else DeskStep.abort f
  | .ok (location, target) =>
    if e.loops != .follow && c.site.trail.contains (location, c.site.path) then
      if e.loops = .stop then DeskStep.abort .referenceLoop
      else (Step.fail (looping c.site ref)).on r
    else judge (c.follow target location (some r)) r

/-- Logic that judges further nodes hands the report on to them; other logic writes to it. -/
def runOn (e : Setting) (judge : DeskJudge) (keyword : String) (l : Logic) (c : Context) (r : Nat) :
    DeskStep :=
  match l with
  | .types keyword names schemas negated => typesOn judge keyword names schemas negated c r
  | .extending schemas =>
    DeskStep.all (schemas.map fun p =>
      judge (c.under p.schema (partLocation c.site "extends" p) (some r)) r)
  | .dependencies required schemas => dependenciesOn judge required schemas c r
  | .reference ref => referenceOn e judge ref c r
  | .test t => (judgeTest t c.site).on r
  | .unknownFormat name => fun d => (d.log r (unsupported c.site name), .ok true)
  | .told answer => (judgeTold keyword (answer c.site)).on r

end Logic

namespace Bound

/-- Children with a new report each, of the given threshold, that is taken over at the end. -/
def isolatedOn (judge : DeskJudge) (c : Context) (level : Severity) (r : Nat) :
    List Job → DeskStep
  | [] => DeskStep.answer true
  | job :: jobs => DeskStep.both
    (fun d =>
      match judge (c.child job (some d.length)) d.length (d ++ [.plain ⟨level, []⟩]) with
      | (d', .error f) => (d', .error f)
      | (d', .ok b) => (d'.absorb d.length r, .ok b))
    (isolatedOn judge c level r jobs)

/-- The children of a context, on the report that is given or, from a pool, on reports of the
threshold of the context's own. -/
def childrenOn (e : Setting) (judge : DeskJudge) (kind : Kind) (c : Context) (r : Nat) : DeskStep :=
  match Job.ofSite kind c.site with
  | .error f => DeskStep.abort f
  | .ok jobs =>
    if c.site.pooled && !jobs.isEmpty && e.options.parallelMinChildren ≤ jobs.length then
      fun d => isolatedOn judge c (d.reportAt c.report).level r jobs d
    else DeskStep.all (jobs.map fun job => judge (c.child job (some r)) r)

mutual

/-- The verdict of a checker that is run against a report. -/
def run (e : Setting) (judge : DeskJudge) : Bound → Nat → DeskStep
  | .always, _ => DeskStep.answer true
  | .never none, _ => DeskStep.answer false
  | .never (some m), r => (Step.fail m).on r
  | .single keyword logic c, r => logic.runOn e judge keyword c r
  | .all members, r => runAll e judge members r
  | .container kind node c, r => DeskStep.both (run e judge node r) (childrenOn e judge kind c r)
  | .stray t, _ => DeskStep.abort (.notChecker t)

def runAll (e : Setting) (judge : DeskJudge) : List Bound → Nat → DeskStep
  | [], _ => DeskStep.answer true
  | b :: bs, r => DeskStep.both (run e judge b r) (runAll e judge bs r)

end

def allOf : List Bound → Bound
  | [] => .always
  | [b] => b
  | bs => .all bs

mutual

/-- The checker without the reports of its contexts. -/
def erase : Bound → Checker
  | .always => .always
  | .never reason => .never reason
  | .single keyword logic c => .single keyword logic c.site
  | .all members => .all (eraseAll members)
  | .container kind node c => .container kind (erase node) c.site
  | .stray t => .stray t

def eraseAll : List Bound → List Checker
  | [] => []
  | b :: bs => erase b :: eraseAll bs

end

mutual

def contexts : Bound → List Context
  | .single _ _ c => [c]
  | .all members => contextsAll members
  | .container _ node c => c :: contexts node
  | _ => []

def contextsAll : List Bound → List Context
  | [] => []
  | b :: bs => contexts b ++ contextsAll bs

end

/-- No context of the checker has a pool. -/
def Serial (b : Bound) : Prop := ∀ c ∈ b.contexts, c.site.pooled = false

end Bound

namespace Checker

mutual

/-- Binds a checker to the report of the context that it was built from. -/
def bindTo (r : Nat) : Checker → Bound
  | .always => .always
  | .never reason => .never reason
  | .single keyword logic s => .single keyword logic ⟨s, r⟩
  | .all members => .all (bindAllTo r members)
  | .container kind node s => .container kind (bindTo r node) ⟨s, r⟩
  | .stray t => .stray t

def bindAllTo (r : Nat) : List Checker → List Bound
  | [] => []
  | c :: cs => bindTo r c :: bindAllTo r cs

end

end Checker

namespace Setting

/-- The checker of a context. -/
def dispatchOn (e : Setting) (c : Context) : Except Fault Bound :=
  (Checker.forSite e.vocabulary c.site).2.map (Checker.bindTo c.report)

def roundOn (e : Setting) (inner : DeskJudge) : DeskJudge := fun c r d =>
  match e.dispatchOn c with
  | .error f => (d, .error f)
  | .ok b => b.run e inner r d

/-- Judges the site of a context, nesting at most `fuel` dispatches. -/
def judgeOn (e : Setting) : Nat → DeskJudge
  | 0, _, _ => DeskStep.abort .outOfSteps
  | fuel + 1, c, r => e.roundOn (e.judgeOn fuel) c r

end Setting

end Conform
