import Conform.Proofs.Bound
import Conform.Proofs.Collapse
import Conform.Report.Desk

/-!
Desks of reports over any calls. Whatever is added, logged, folded in or collected, a report keeps
its threshold and its messages, and new ones only come behind them. Folding reads the source as it
grows, so a report that is folded into itself never comes to its end once it meets a message at its
own threshold, which it puts before itself again; every other call ends.
-/
namespace Conform

namespace Report

variable {r : Report} {m : Diagnostic} {k cursor fuel : Nat}

theorem log_of_below (h : m.level.reaches r.level = false) : r.log m = r := by
  rw [log, h]
  rfl

theorem log_of_reaches (h : m.level.reaches r.level = true) :
    r.log m = ⟨r.level, r.messages ++ [m]⟩ := by
  rw [log, if_pos h, add]

/-- The level that is kept by logging. -/
theorem level_log (r : Report) (m : Diagnostic) : (r.log m).level = r.level := by
  unfold log
  split <;> rfl

theorem getElem?_log (h : r.messages[k]? = some m) (m' : Diagnostic) :
    (r.log m').messages[k]? = some m := by
  unfold log
  split
  · have hk : k < r.messages.length := (List.getElem?_eq_some_iff.mp h).1
    exact (List.getElem?_append_left hk).trans h
  · exact h

/-- Where nothing reaches the threshold, folding a report into itself changes nothing. -/
theorem injectSelf_of_below (h : ∀ m ∈ r.messages, m.level.reaches r.level = false)
    (hfuel : r.size ≤ cursor + fuel) : r.injectSelf fuel cursor = some r := by
  induction fuel generalizing cursor with
  | zero => rw [injectSelf, if_neg (by omega)]
  | succ fuel ih =>
    rw [injectSelf]
    split
    · rfl
    · rename_i m hm
      rw [log_of_below (h m (List.mem_of_getElem? hm))]
      exact ih (by omega)

/-- A message at the threshold that still comes is always followed by a later one: when it is met,
it is logged behind all others. -/
theorem injectSelf_endless (hk : r.messages[k]? = some m) (hm : m.level.reaches r.level = true)
    (hcursor : cursor ≤ k) (fuel : Nat) : r.injectSelf fuel cursor = none := by
  have hsize : k < r.size := (List.getElem?_eq_some_iff.mp hk).1
  induction fuel generalizing r k m cursor with
  | zero => rw [injectSelf, if_pos (by omega)]
  | succ fuel ih =>
    have hlt : cursor < r.messages.length := Nat.lt_of_le_of_lt hcursor hsize
    rw [injectSelf, List.getElem?_eq_getElem hlt]
    rcases Nat.eq_or_lt_of_le hcursor with rfl | hlater
    · -- the message itself is met, and stands at the end now
      obtain ⟨_, rfl⟩ := List.getElem?_eq_some_iff.mp hk
      have hlog := log_of_reaches hm
      refine ih (k := r.size) (m := r.messages[cursor]) ?_ ?_ hsize ?_
      · rw [hlog]
        exact List.getElem?_concat_length
      · rw [level_log]
        exact hm
      · rw [hlog]
        simp [size]
    · have hstill := getElem?_log hk r.messages[cursor]
      refine ih hstill ?_ hlater (List.getElem?_eq_some_iff.mp hstill).1
      rw [level_log]
      exact hm

/-- A report that holds a message at its own threshold. -/
def FeedsItself (r : Report) : Prop := ∃ m ∈ r.messages, m.level.reaches r.level = true

theorem injectSelf_eq_none_iff : r.injectSelf r.size 0 = none ↔ r.FeedsItself := by
  constructor
  · intro h
    by_contra hnone
    have hbelow : ∀ m ∈ r.messages, m.level.reaches r.level = false := by
      intro m hm
      exact Bool.eq_false_iff.mpr fun hreaches => hnone ⟨m, hm, hreaches⟩
    rw [injectSelf_of_below hbelow (by omega)] at h
    cases h
  · rintro ⟨m, hm, hreaches⟩
    obtain ⟨k, hk⟩ := List.mem_iff_getElem?.mp hm
    exact injectSelf_endless hk hreaches (Nat.zero_le k) r.size

/-- Folding a report into itself, where it ends, changes nothing. -/
theorem eq_of_injectSelf {r' : Report} (h : r.injectSelf r.size 0 = some r') :
    r' = r ∧ r.messages.filter (·.level.reaches r.level) = [] := by
  have hbelow : ∀ m ∈ r.messages, m.level.reaches r.level = false := by
    intro m hm
    refine Bool.eq_false_iff.mpr fun hreaches => ?_
    rw [injectSelf_eq_none_iff.mpr ⟨m, hm, hreaches⟩] at h
    cases h
  rw [injectSelf_of_below hbelow (by omega)] at h
  refine ⟨(Option.some.inj h).symm, List.filter_eq_nil_iff.mpr fun m hm => ?_⟩
  rw [hbelow m hm]
  exact Bool.false_ne_true

theorem isSuccess_iff : r.isSuccess = true ↔ ∀ m ∈ r.messages, m.level.reaches .error = false := by
  simp [isSuccess]

end Report

namespace Desk

/-- What is done to the reports of a desk, each named by its number. -/
inductive Call where
  | submit (on : Nat) (x : Diagnostic ⊕ Value)
  | log (on : Nat) (m : Diagnostic)
  | inject (source target : Nat)
  | collect (source target : Nat) (collapse : Bool)

/-- The desk after a call, if the call ends. What is refused leaves the desk as it was. -/
def call (d : Desk) : Call → Option Desk
  | .submit i x =>
    match d.submit i x with
    | .ok d' => some d'
    | .error _ => some d
  | .log i m => some (d.log i m)
  | .inject source target => d.inject source target
  | .collect source target collapse => some (d.collect source target collapse).1

/-- The desk after calls one after the other, if all of them end. -/
def run (d : Desk) (calls : List Call) : Option Desk := calls.foldlM call d

/-- The second desk is the first one with messages behind those of one report. There may be new
reports. -/
structure Appends (d : Desk) (i : Nat) (ms : List Diagnostic) (d' : Desk) : Prop where
  report : d'.reportAt i = ⟨(d.reportAt i).level, (d.reportAt i).messages ++ ms⟩
  others : ∀ k < d.length, k ≠ i → d'.reportAt k = d.reportAt k

/-- Every report of the first desk is one of the second, with its threshold, and its messages first
of all. -/
def Extends (d d' : Desk) : Prop :=
  d.length ≤ d'.length ∧ ∀ i < d.length, ∃ more,
    d'.reportAt i = ⟨(d.reportAt i).level, (d.reportAt i).messages ++ more⟩

variable {d d' d'' new : Desk} {i source target : Nat} {m : Diagnostic} {ms : List Diagnostic}
  {calls : List Call}

theorem Extends.refl (d : Desk) : d.Extends d :=
  ⟨Nat.le_refl _, fun _ _ => ⟨[], by rw [List.append_nil]⟩⟩

theorem Extends.trans (h : d.Extends d') (h' : d'.Extends d'') : d.Extends d'' := by
  refine ⟨Nat.le_trans h.1 h'.1, fun i hi => ?_⟩
  obtain ⟨more, hmore⟩ := h.2 i hi
  obtain ⟨later, hlater⟩ := h'.2 i (Nat.lt_of_lt_of_le hi h.1)
  refine ⟨more ++ later, ?_⟩
  rw [hlater, hmore, List.append_assoc]

theorem appends_setReport (hi : i < d.length) : d.Appends i ms
    (d.setReport i ⟨(d.reportAt i).level, (d.reportAt i).messages ++ ms⟩ ++ new) := by
  have hlength := length_setReport d i ⟨(d.reportAt i).level, (d.reportAt i).messages ++ ms⟩
  refine ⟨?_, ?_⟩
  · rw [reportAt_append (by omega), reportAt_setReport hi]
  · intro k hk hne
    rw [reportAt_append (by omega), reportAt_setReport_of_ne (Ne.symm hne)]

theorem extends_setReport (d new : Desk) (i : Nat) (ms : List Diagnostic) : d.Extends
    (d.setReport i ⟨(d.reportAt i).level, (d.reportAt i).messages ++ ms⟩ ++ new) := by
  have hlength := length_setReport d i ⟨(d.reportAt i).level, (d.reportAt i).messages ++ ms⟩
  refine ⟨by rw [List.length_append]; omega, fun k hk => ?_⟩
  by_cases hki : k = i
  · subst hki
    exact ⟨ms, (appends_setReport hk).report⟩
  · refine ⟨[], ?_⟩
    rw [List.append_nil, reportAt_append (by omega), reportAt_setReport_of_ne (Ne.symm hki)]

theorem log_eq (d : Desk) (i : Nat) (m : Diagnostic) : d.log i m =
    d.setReport i ⟨(d.reportAt i).level,
      (d.reportAt i).messages ++ [m].filter (·.level.reaches (d.reportAt i).level)⟩ ++ [] := by
  rw [List.append_nil, ← Report.logAll_eq]
  rfl

theorem submit_eq (d : Desk) (i : Nat) (m : Diagnostic) : d.submit i (.inl m) =
    .ok (d.setReport i ⟨(d.reportAt i).level, (d.reportAt i).messages ++ [m]⟩ ++ []) := by
  rw [List.append_nil]
  rfl

/-- Folding one report into another, or one into itself where that ends, appends what the source
held, as far as it reaches the threshold of the target. -/
theorem inject_eq (hd : d.inject source target = some d') : d' =
    d.setReport target ⟨(d.reportAt target).level, (d.reportAt target).messages ++
      (d.reportAt source).messages.filter (·.level.reaches (d.reportAt target).level)⟩ ++ [] := by
  rw [List.append_nil]
  unfold inject at hd
  split at hd
  · rename_i hsame
    subst hsame
    obtain ⟨r, hr, rfl⟩ := Option.map_eq_some_iff.mp hd
    obtain ⟨rfl, hnone⟩ := Report.eq_of_injectSelf hr
    rw [hnone, List.append_nil]
  · rw [← Option.some.inj hd, Report.logAll_eq]

/-- Only a report that is folded into itself and holds a message at its own threshold is never
done. -/
theorem inject_eq_none_iff : d.inject source target = none ↔
    source = target ∧ (d.reportAt source).FeedsItself := by
  unfold inject
  split
  · rename_i hsame
    rw [Option.map_eq_none_iff, Report.injectSelf_eq_none_iff]
    exact (and_iff_right hsame).symm
  · rename_i hne
    exact ⟨nofun, fun h => absurd h.1 hne⟩

/-- What collecting takes over of a report. -/
def collected (collapse : Bool) (ms : List Diagnostic) : List Diagnostic :=
  if collapse then Diagnostic.kept ms else ms

theorem target_collect (ms : List Diagnostic) (r : Report) (collapse : Bool) :
    (FaultReport.collect ms r collapse).2 = r.logAll (collected collapse ms) := by
  cases collapse with
  | true => rw [FaultReport.collect_collapse, FaultReport.collect_all]; rfl
  | false => exact FaultReport.collect_all ms r

theorem collect_eq (d : Desk) (source target : Nat) (collapse : Bool) :
    ∃ faults, (d.collect source target collapse).1 =
      d.setReport target ⟨(d.reportAt target).level, (d.reportAt target).messages ++
        (collected collapse (d.reportAt source).messages).filter
          (·.level.reaches (d.reportAt target).level)⟩ ++ [.faults faults] := by
  refine ⟨_, congrArg (fun r => d.setReport target r ++ _) ?_⟩
  rw [← Report.logAll_eq]
  exact target_collect _ _ collapse

theorem extends_call {c : Call} (h : d.call c = some d') : d.Extends d' := by
  cases c with
  | submit i x =>
    cases x with
    | inl m =>
      rw [call, submit_eq] at h
      exact Option.some.inj h ▸ extends_setReport d [] i [m]
    | inr v => exact Option.some.inj h ▸ Extends.refl d
  | log i m =>
    rw [call, log_eq] at h
    exact Option.some.inj h ▸ extends_setReport d [] i _
  | inject source target => exact inject_eq h ▸ extends_setReport d [] target _
  | collect source target collapse =>
    obtain ⟨faults, hfaults⟩ := collect_eq d source target collapse
    rw [call, hfaults] at h
    exact Option.some.inj h ▸ extends_setReport d [.faults faults] target _

theorem run_cons (d : Desk) (c : Call) (calls : List Call) :
    d.run (c :: calls) = (d.call c).bind fun d' => d'.run calls := by
  rw [run, List.foldlM_cons]
  rfl

theorem extends_run (h : d.run calls = some d') : d.Extends d' := by
  induction calls generalizing d with
  | nil =>
    obtain rfl := Option.some.inj h
    exact Extends.refl d
  | cons c calls ih =>
    rw [run_cons] at h
    obtain ⟨next, hnext, hrest⟩ := Option.bind_eq_some_iff.mp h
    exact (extends_call hnext).trans (ih hrest)

theorem call_eq_none_iff {c : Call} : d.call c = none ↔
    ∃ i, c = .inject i i ∧ (d.reportAt i).FeedsItself := by
  cases c with
  | submit i x => exact ⟨by cases x <;> exact nofun, by rintro ⟨_, hc, _⟩; cases hc⟩
  | log i m => exact ⟨nofun, by rintro ⟨_, hc, _⟩; cases hc⟩
  | inject source target =>
    rw [call, inject_eq_none_iff]
    constructor
    · rintro ⟨rfl, h⟩
      exact ⟨source, rfl, h⟩
    · rintro ⟨i, hc, h⟩
      cases hc
      exact ⟨rfl, h⟩
  | collect source target collapse => exact ⟨nofun, by rintro ⟨_, hc, _⟩; cases hc⟩

/-- Calls are not all done exactly if one of them folds a report into itself that holds a message at
its own threshold by then. -/
theorem run_eq_none_iff : d.run calls = none ↔ ∃ before i after d',
    calls = before ++ .inject i i :: after ∧ d.run before = some d' ∧
      (d'.reportAt i).FeedsItself := by
  induction calls generalizing d with
  | nil => simp [run]
  | cons c calls ih =>
    rw [run_cons]
    constructor
    · intro h
      -- the first call ends, or it is the one
      cases hc : d.call c with
      | none =>
        obtain ⟨i, rfl, hi⟩ := call_eq_none_iff.mp hc
        exact ⟨[], i, calls, d, rfl, rfl, hi⟩
      | some next =>
        rw [hc] at h
        obtain ⟨before, i, after, d', rfl, hrun, hi⟩ := ih.mp h
        refine ⟨c :: before, i, after, d', rfl, ?_, hi⟩
        rw [run_cons, hc]
        exact hrun
    · rintro ⟨before, i, after, d', hcalls, hrun, hi⟩
      cases before with
      | nil =>
        obtain ⟨rfl, rfl⟩ := List.cons.inj hcalls
        obtain rfl := Option.some.inj hrun
        rw [call_eq_none_iff.mpr ⟨i, rfl, hi⟩]
        rfl
      | cons c' before =>
        obtain ⟨rfl, rfl⟩ := List.cons.inj hcalls
        rw [run_cons] at hrun
        obtain ⟨next, hnext, hrest⟩ := Option.bind_eq_some_iff.mp hrun
        rw [hnext]
        exact ih.mpr ⟨before, i, after, d', rfl, hrest, hi⟩

/-- Reports only grow at their ends. After any calls that are all done, each report has the
threshold that it had, and its messages are those that it had with others behind them. Calls are not
all done exactly if one folds a report into itself that holds a message at its own threshold; that
call comes to no end, however many steps it is given.

What is handed over to be added is appended whatever the threshold is, unless it is no diagnostic,
in which case it is refused as of a wrong type and nothing changes; what is logged is appended
exactly if it reaches the threshold. Folding, where it ends, and collecting append what the source
held, as far as it reaches the threshold of the target, in its order, and no other report changes;
collapsing leaves out repetitions. A report is a success exactly if no message in it is an error or
worse. -/
theorem reports_only_grow (d : Desk) :
    (∀ calls d', d.run calls = some d' → d.Extends d') ∧
    (∀ calls, d.run calls = none ↔ ∃ before i after d',
      calls = before ++ .inject i i :: after ∧ d.run before = some d' ∧
        (d'.reportAt i).FeedsItself) ∧
    (∀ i, (d.reportAt i).FeedsItself → ∀ steps, (d.reportAt i).injectSelf steps 0 = none) ∧
    (∀ i < d.length,
      (∀ m, ∃ d', d.submit i (.inl m) = .ok d' ∧ d.Appends i [m] d') ∧
      (∀ v, ∃ f, d.submit i (.inr v) = .error f ∧ f.label = "TypeError" ∧
        d.call (.submit i (.inr v)) = some d) ∧
      (∀ m, d.Appends i (if m.level.reaches (d.reportAt i).level then [m] else []) (d.log i m)) ∧
      (∀ source d', d.inject source i = some d' → d.Appends i
        ((d.reportAt source).messages.filter (·.level.reaches (d.reportAt i).level)) d') ∧
      ∀ source collapse, d.Appends i ((collected collapse (d.reportAt source).messages).filter
        (·.level.reaches (d.reportAt i).level)) (d.collect source i collapse).1) ∧
    ∀ i, (d.reportAt i).isSuccess = true ↔
      ∀ m ∈ (d.reportAt i).messages, m.level.reaches .error = false := by
  refine ⟨fun _ _ => extends_run, fun _ => run_eq_none_iff, ?_, ?_, fun _ => Report.isSuccess_iff⟩
  · rintro i ⟨m, hm, hreaches⟩ steps
    obtain ⟨k, hk⟩ := List.mem_iff_getElem?.mp hm
    exact Report.injectSelf_endless hk hreaches (Nat.zero_le k) steps
  · intro i hi
    refine ⟨fun m => ⟨_, submit_eq d i m, appends_setReport hi⟩, fun v => ⟨_, rfl, rfl, rfl⟩, ?_,
      fun source d' h => inject_eq h ▸ appends_setReport hi, ?_⟩
    · intro m
      rw [log_eq, List.filter_cons]
      exact appends_setReport hi
    · intro source collapse
      obtain ⟨faults, hfaults⟩ := collect_eq d source i collapse
      rw [hfaults]
      exact appends_setReport hi

/-- Folding a report with one error in it into itself should leave two, and never ends. -/
theorem self_injection_endless :
    let r : Report := ⟨.info, [⟨.error, "x", .root, none, none, .validation, []⟩]⟩
    (∀ steps, r.injectSelf steps 0 = none) ∧ ¬ ∃ d', inject [.plain r] 0 0 = some d' := by
  intro r
  have hfirst : r.messages[0]? = some ⟨.error, "x", .root, none, none, .validation, []⟩ := rfl
  have hnone : inject [.plain r] 0 0 = none := rfl
  refine ⟨Report.injectSelf_endless hfirst rfl (Nat.zero_le 0), ?_⟩
  rintro ⟨d', h⟩
  rw [hnone] at h
  cases h

end Desk

end Conform
