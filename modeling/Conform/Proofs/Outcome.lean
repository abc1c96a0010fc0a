import Conform.Judge
import Conform.Proofs.Answer
import Mathlib.Data.List.Forall2

/-!
Outcomes of steps. What a step remarks, finds and answers does not depend on the journal that it
is run on: it puts its notes before those taken earlier and its messages, as far as they reach the
threshold, behind those found earlier. Every step that a setting makes of a site is of this kind,
so that judging is a function from sites to outcomes.
-/
namespace Conform

namespace Report

theorem logAll_eq (r : Report) (ms : List Diagnostic) :
    r.logAll ms = ⟨r.level, r.messages ++ ms.filter (·.level.reaches r.level)⟩ := by
  induction ms generalizing r with
  | nil => simp [logAll]
  | cons m ms ih =>
    have hstep : r.logAll (m :: ms) = (r.log m).logAll ms := rfl
    rw [hstep, ih]
    -- a message below the threshold is neither logged nor kept by the filter
    by_cases hm : m.level.reaches r.level
    · simp [log, hm, add]
    · simp [log, hm]

@[simp]
theorem logAll_nil (r : Report) : r.logAll [] = r := rfl

theorem logAll_append (r : Report) (ms ns : List Diagnostic) :
    r.logAll (ms ++ ns) = (r.logAll ms).logAll ns :=
  List.foldl_append

/-- A report of the lowest threshold takes everything. -/
theorem logAll_debug (xs ms : List Diagnostic) :
    (⟨.debug, xs⟩ : Report).logAll ms = ⟨.debug, xs ++ ms⟩ := by
  have hall : ms.filter (fun m => m.level.reaches .debug) = ms := by
    apply List.filter_eq_self.mpr
    intro m _
    cases hl : m.level <;> rfl
  rw [logAll_eq, hall]

/-- What a fresh report of the same threshold took is all that the report would have taken. -/
theorem logAll_apart (r : Report) (ms : List Diagnostic) :
    r.logAll ((⟨r.level, []⟩ : Report).logAll ms).messages = r.logAll ms := by
  simp only [logAll_eq, List.nil_append, List.filter_filter, Bool.and_self]

end Report

/-- Two lists that are made from the same elements are related if what each is made to is. -/
theorem forall₂_map {α β γ : Type} {R : β → γ → Prop} {f : α → β} {g : α → γ} {xs : List α}
    (h : ∀ x ∈ xs, R (f x) (g x)) : List.Forall₂ R (xs.map f) (xs.map g) := by
  rw [List.forall₂_map_left_iff, List.forall₂_map_right_iff, List.forall₂_same]
  exact h

/-- What a step remarks, the latest first, what it finds, in order, and what it answers. -/
structure Outcome where
  notes : List Note := []
  messages : List Diagnostic := []
  verdict : Except Fault Bool

namespace Outcome

/-- What a step with an outcome makes of a journal. -/
def onto (o : Outcome) (j : Journal) : Journal × Except Fault Bool :=
  (⟨j.report.logAll o.messages, o.notes ++ j.notes⟩, o.verdict)

/-- The outcome of two steps in turn. A fault ends them. -/
def andThen (a b : Outcome) : Outcome :=
  match a.verdict with
  | .error _ => a
  | .ok x => ⟨b.notes ++ a.notes, a.messages ++ b.messages, b.verdict.map (x && ·)⟩

def all : List Outcome → Outcome
  | [] => ⟨[], [], .ok true⟩
  | o :: os => o.andThen (all os)

/-- A report that is folded in only at the end is lost with a fault. -/
def apart (o : Outcome) : Outcome :=
  match o.verdict with
  | .error f => ⟨o.notes, [], .error f⟩
  | .ok _ => o

/-- The outcome after some notes, given in the order in which they were taken. -/
def after (ns : List Note) (o : Outcome) : Outcome := { o with notes := o.notes ++ ns.reverse }

@[simp]
theorem verdict_after (ns : List Note) (o : Outcome) : (o.after ns).verdict = o.verdict := rfl

theorem verdict_apart (o : Outcome) : o.apart.verdict = o.verdict := by
  unfold apart
  split
  · rename_i h
    exact h.symm
  · rfl

theorem verdict_andThen (a b : Outcome) :
    (a.andThen b).verdict = a.verdict.bind fun x => b.verdict.map (x && ·) := by
  cases ha : a.verdict <;> simp [andThen, ha, Except.bind]

/-- Running each step apart does not change the verdict of all. -/
theorem verdict_all_apart (os : List Outcome) :
    (all (os.map apart)).verdict = (all os).verdict := by
  induction os with
  | nil => rfl
  | cons o os ih =>
    simp only [List.map_cons, all, verdict_andThen, verdict_apart, ih]

theorem verdict_andThen_ok {a b : Outcome} {z : Bool} :
    (a.andThen b).verdict = .ok z ↔
      ∃ x y, a.verdict = .ok x ∧ b.verdict = .ok y ∧ z = (x && y) := by
  cases ha : a.verdict with
  | error f => simp [andThen, ha]
  | ok x => simp [andThen, ha, eq_comm]

theorem verdict_andThen_error {a b : Outcome} {f : Fault} :
    (a.andThen b).verdict = .error f ↔
      a.verdict = .error f ∨ ∃ x, a.verdict = .ok x ∧ b.verdict = .error f := by
  cases ha : a.verdict with
  | error g => simp [andThen, ha]
  | ok x => simp [andThen, ha]

/-- Steps in turn answer when each of them does, and yes when each says yes. -/
theorem verdict_all_ok {os : List Outcome} {z : Bool} (h : (all os).verdict = .ok z) :
    (∀ o ∈ os, ∃ y, o.verdict = .ok y) ∧ (z = true ↔ ∀ o ∈ os, o.verdict = .ok true) := by
  induction os generalizing z with
  | nil =>
    obtain rfl : true = z := Except.ok.inj h
    simp
  | cons o os ih =>
    obtain ⟨x, y, hx, hy, rfl⟩ := verdict_andThen_ok.mp h
    obtain ⟨hall, hiff⟩ := ih hy
    refine ⟨?_, ?_⟩
    · intro o' ho'
      rcases List.mem_cons.mp ho' with rfl | ho'
      · exact ⟨x, hx⟩
      · exact hall o' ho'
    · rw [Bool.and_eq_true, hiff, List.forall_mem_cons, hx]
      simp

theorem exists_of_verdict_all_error {os : List Outcome} {f : Fault}
    (h : (all os).verdict = .error f) : ∃ o ∈ os, o.verdict = .error f := by
  induction os with
  | nil => simp [all] at h
  | cons o os ih =>
    rcases verdict_andThen_error.mp h with h | ⟨_, _, h⟩
    · exact ⟨o, List.mem_cons_self, h⟩
    · obtain ⟨o', ho', h⟩ := ih h
      exact ⟨o', List.mem_cons_of_mem _ ho', h⟩

theorem verdict_all_error {os : List Outcome} {o : Outcome} {f : Fault} (ho : o ∈ os)
    (h : o.verdict = .error f) : ∃ g, (all os).verdict = .error g := by
  -- were there a verdict, every step would have one
  cases hv : (all os).verdict with
  | error g => exact ⟨g, rfl⟩
  | ok z =>
    obtain ⟨y, hy⟩ := (verdict_all_ok hv).1 o ho
    rw [h] at hy
    cases hy

end Outcome

namespace Step

/-- What a step makes of an empty journal that takes everything. -/
def outcome (s : Step) : Outcome :=
  ⟨(s ⟨⟨.debug, []⟩, []⟩).1.notes, (s ⟨⟨.debug, []⟩, []⟩).1.report.messages,
    (s ⟨⟨.debug, []⟩, []⟩).2⟩

/-- A step that makes of every journal what its outcome says. -/
def Uniform (s : Step) : Prop := ∀ j, s j = s.outcome.onto j

theorem outcome_eq {s : Step} {o : Outcome} (h : ∀ j, s j = o.onto j) : s.outcome = o := by
  simp only [outcome, h, Outcome.onto, Report.logAll_debug, List.nil_append, List.append_nil]

theorem uniform_of {s : Step} {o : Outcome} (h : ∀ j, s j = o.onto j) : s.Uniform := by
  intro j
  rw [outcome_eq h]
  exact h j

theorem answer_onto (b : Bool) (j : Journal) : answer b j = Outcome.onto ⟨[], [], .ok b⟩ j := rfl

theorem abort_onto (f : Fault) (j : Journal) : abort f j = Outcome.onto ⟨[], [], .error f⟩ j := rfl

theorem fail_onto (d : Diagnostic) (j : Journal) :
    fail d j = Outcome.onto ⟨[], [d], .ok false⟩ j := rfl

theorem both_onto {a b : Step} (ha : a.Uniform) (hb : b.Uniform) (j : Journal) :
    both a b j = (a.outcome.andThen b.outcome).onto j := by
  simp only [both, ha j, Outcome.onto, Outcome.andThen]
  -- with a fault the second step never runs
  cases hx : a.outcome.verdict with
  | error f => simp [hx]
  | ok x =>
    simp only [hb _, Outcome.onto]
    cases hy : b.outcome.verdict with
    | error f => simp [Except.map, Report.logAll_append]
    | ok y => simp [Except.map, Report.logAll_append]

theorem apart_onto {s : Step} (hs : s.Uniform) (j : Journal) :
    apart s j = s.outcome.apart.onto j := by
  simp only [apart, hs _, Outcome.onto, Outcome.apart]
  cases hv : s.outcome.verdict with
  | error f => simp
  | ok b => simp [hv, Report.logAll_apart]

theorem note_onto {s : Step} (hs : s.Uniform) (ns : List Note) (j : Journal) :
    s (j.note ns) = (s.outcome.after ns).onto j := by
  rw [hs]
  simp [Outcome.onto, Outcome.after, Journal.note]

@[simp]
theorem outcome_answer (b : Bool) : (answer b).outcome = ⟨[], [], .ok b⟩ :=
  outcome_eq (answer_onto b)

@[simp]
theorem outcome_abort (f : Fault) : (abort f).outcome = ⟨[], [], .error f⟩ :=
  outcome_eq (abort_onto f)

@[simp]
theorem outcome_fail (d : Diagnostic) : (fail d).outcome = ⟨[], [d], .ok false⟩ :=
  outcome_eq (fail_onto d)

theorem uniform_answer (b : Bool) : (answer b).Uniform := uniform_of (answer_onto b)

theorem uniform_abort (f : Fault) : (abort f).Uniform := uniform_of (abort_onto f)

theorem uniform_fail (d : Diagnostic) : (fail d).Uniform := uniform_of (fail_onto d)

theorem outcome_both {a b : Step} (ha : a.Uniform) (hb : b.Uniform) :
    (both a b).outcome = a.outcome.andThen b.outcome :=
  outcome_eq (both_onto ha hb)

theorem uniform_both {a b : Step} (ha : a.Uniform) (hb : b.Uniform) : (both a b).Uniform :=
  uniform_of (both_onto ha hb)

theorem outcome_apart {s : Step} (hs : s.Uniform) : (apart s).outcome = s.outcome.apart :=
  outcome_eq (apart_onto hs)

theorem uniform_apart {s : Step} (hs : s.Uniform) : (apart s).Uniform :=
  uniform_of (apart_onto hs)

theorem uniform_all {ss : List Step} (h : ∀ s ∈ ss, s.Uniform) : (all ss).Uniform := by
  induction ss with
  | nil => exact uniform_answer true
  | cons s ss ih =>
    obtain ⟨hs, hss⟩ := List.forall_mem_cons.mp h
    exact uniform_both hs (ih hss)

theorem outcome_all {ss : List Step} (h : ∀ s ∈ ss, s.Uniform) :
    (all ss).outcome = Outcome.all (ss.map outcome) := by
  induction ss with
  | nil => exact outcome_answer true
  | cons s ss ih =>
    obtain ⟨hs, hss⟩ := List.forall_mem_cons.mp h
    change (both s (all ss)).outcome = s.outcome.andThen (Outcome.all (ss.map outcome))
    rw [outcome_both hs (uniform_all hss), ih hss]

theorem uniform_map_apart {ss : List Step} (h : ∀ s ∈ ss, s.Uniform) :
    ∀ s ∈ ss.map apart, s.Uniform := by
  intro s hs
  obtain ⟨t, ht, rfl⟩ := List.mem_map.mp hs
  exact uniform_apart (h t ht)

theorem outcome_all_apart {ss : List Step} (h : ∀ s ∈ ss, s.Uniform) :
    (all (ss.map apart)).outcome = Outcome.all ((ss.map outcome).map Outcome.apart) := by
  rw [outcome_all (uniform_map_apart h), List.map_map, List.map_map]
  congr 1
  apply List.map_congr_left
  intro s hs
  exact outcome_apart (h s hs)

end Step

end Conform
