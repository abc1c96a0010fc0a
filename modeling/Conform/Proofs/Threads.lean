import Conform.Proofs.Scopes
import Mathlib.Logic.Function.Iterate

/-!
Threads that log inside scopes. A thread runs a program of nested scopes, log calls and errors, one
step after another; with each scope the fields from before it are kept until it is left. Main
statements: the fields in force on a thread are those of the scopes around; a thread logs what its
program tells, in that order and inside those scopes; and however the body of a scope ends, the
thread goes on with the fields from before the scope.
-/
namespace Conform.Log

/-- What a thread does. -/
inductive Program where
  | done
  | raise (fault : Fault)
  | emit (record : Record) (next : Program)
  | scope (fields : Members) (body next : Program)
  /-- A body whose errors are caught: after one, `rescue` is what comes next. -/
  | attempt (body next rescue : Program)

/-- What a thread has begun and goes on with later. -/
inductive Frame where
  /-- A scope, with the fields that were in force before it. -/
  | scope (fields : Members) (before : Correlation) (next : Program)
  | attempt (next rescue : Program)

/-- A record that is logged, and the fields of the scopes around, of the innermost one first. -/
structure LogCall where
  record : Record
  scopes : List Members

namespace Program

/-- What is left of a program that has ended, with an error or without one. -/
def ended : Option Fault → Program
  | none => .done
  | some f => .raise f

/-- The error that a program ends with, if there is one. -/
def fault? : Program → Option Fault
  | .done => none
  | .raise f => some f
  | .emit _ next => next.fault?
  | .scope fields body next =>
    match Correlation.refusal fields, body.fault? with
    | some f, _ => some f
    | none, some f => some f
    | none, none => next.fault?
  | .attempt body next rescue =>
    match body.fault? with
    | some _ => rescue.fault?
    | none => next.fault?

/-- What a program logs inside scopes. -/
def logCalls (scopes : List Members) : Program → List LogCall
  | .done => []
  | .raise _ => []
  | .emit r next => ⟨r, scopes⟩ :: next.logCalls scopes
  | .scope fields body next =>
    match Correlation.refusal fields, body.fault? with
    | some _, _ => []
    | none, some _ => body.logCalls (fields :: scopes)
    | none, none => body.logCalls (fields :: scopes) ++ next.logCalls scopes
  | .attempt body next rescue =>
    match body.fault? with
    | some _ => body.logCalls scopes ++ rescue.logCalls scopes
    | none => body.logCalls scopes ++ next.logCalls scopes

end Program

namespace Frame

def fields? : Frame → Option Members
  | .scope fields _ _ => some fields
  | .attempt _ _ => none

/-- The fields of the scopes that were entered. -/
def scopes (frames : List Frame) : List Members := frames.filterMap fields?

/-- What comes after a body that ended. -/
def resume : Frame → Option Fault → Program
  | .scope _ _ next, none => next
  | .scope _ _ _, some f => .raise f
  | .attempt next _, none => next
  | .attempt _ rescue, some _ => rescue

/-- The fields in force after a body at whose end some were. -/
def restore : Frame → Correlation → Correlation
  | .scope _ before _, _ => before
  | .attempt _ _, c => c

/-- Whether some fields are in force behind frames: each scope was entered with those from before
it, and the first one with none. -/
def Establish : List Frame → Correlation → Prop
  | [], c => c = []
  | .scope fields before _ :: frames, c => before.enter fields = .ok c ∧ Establish frames before
  | .attempt _ _ :: frames, c => Establish frames c

/-- What is logged behind frames after a program that ended. -/
def logCalls : List Frame → Option Fault → List LogCall
  | [], _ => []
  | frame :: frames, outcome => (frame.resume outcome).logCalls (scopes frames) ++
      logCalls frames (frame.resume outcome).fault?

@[simp]
theorem scopes_scope (fields : Members) (before : Correlation) (next : Program)
    (frames : List Frame) : scopes (.scope fields before next :: frames) = fields :: scopes frames :=
  rfl

@[simp]
theorem scopes_attempt (next rescue : Program) (frames : List Frame) :
    scopes (.attempt next rescue :: frames) = scopes frames := rfl

end Frame

structure Thread where
  context : Correlation := []
  program : Program
  /-- The innermost first. -/
  frames : List Frame := []

namespace Thread

/-- One step of a thread. A thread that has nothing left to do stays as it is. -/
def step (t : Thread) : Thread :=
  match t.program, t.frames with
  | .emit _ next, _ => { t with program := next }
  | .scope fields body next, frames =>
    match t.context.enter fields with
    | .ok c => ⟨c, body, .scope fields t.context next :: frames⟩
    | .error f => { t with program := .raise f }
  | .attempt body next rescue, frames => ⟨t.context, body, .attempt next rescue :: frames⟩
  | .done, frame :: frames => ⟨frame.restore t.context, frame.resume none, frames⟩
  | .raise f, frame :: frames => ⟨frame.restore t.context, frame.resume (some f), frames⟩
  | .done, [] => t
  | .raise _, [] => t

/-- The record that the next step logs, if it logs one. -/
def emits? (t : Thread) : Option Record :=
  match t.program with
  | .emit r _ => some r
  | _ => none

/-- The fields of the scopes around the next step. -/
def scopes (t : Thread) : List Members := Frame.scopes t.frames

/-- All that a thread is still going to log. -/
def logCalls (t : Thread) : List LogCall :=
  t.program.logCalls t.scopes ++ Frame.logCalls t.frames t.program.fault?

/-- Whether the fields in force are those of the scopes around. -/
def Sound (t : Thread) : Prop := Frame.Establish t.frames t.context

end Thread

namespace Frame

variable {frames : List Frame} {frame : Frame} {c : Correlation}

theorem Establish.lookup (h : Establish frames c) (name : String) :
    c.lookup name = Correlation.inForce (scopes frames) name := by
  induction frames generalizing c with
  | nil =>
    obtain rfl : c = [] := h
    rfl
  | cons frame frames ih =>
    cases frame with
    | scope fields before next =>
      obtain ⟨henter, hbefore⟩ := h
      rw [Correlation.lookup_enter henter, ih hbefore]
      rfl
    | attempt next rescue => exact ih h

theorem Establish.established (h : Establish frames c) : c.Established := by
  refine ⟨(scopes frames).reverse, ?_⟩
  induction frames generalizing c with
  | nil =>
    obtain rfl : c = [] := h
    rfl
  | cons frame frames ih =>
    cases frame with
    | scope fields before next =>
      obtain ⟨henter, hbefore⟩ := h
      rw [scopes_scope, List.reverse_cons, List.foldlM_append, ih hbefore]
      have hlast : [fields].foldlM Correlation.enter before = .ok c :=
        Answer.do_ok.mpr ⟨c, henter, rfl⟩
      exact hlast
    | attempt next rescue => exact ih h

/-- Leaving a frame brings back what was in force before it. -/
theorem Establish.restore (h : Establish (frame :: frames) c) :
    Establish frames (frame.restore c) := by
  cases frame with
  | scope fields before next => exact h.2
  | attempt next rescue => exact h

end Frame

namespace Program

variable {fields : Members}

theorem fault?_scope (h : Correlation.refusal fields = none) (body next : Program)
    (before : Correlation) : (scope fields body next).fault? =
      ((Frame.scope fields before next).resume body.fault?).fault? := by
  simp only [fault?, h]
  cases body.fault? <;> rfl

theorem logCalls_scope (h : Correlation.refusal fields = none) (body next : Program)
    (before : Correlation) (scopes : List Members) :
    (scope fields body next).logCalls scopes = body.logCalls (fields :: scopes) ++
      ((Frame.scope fields before next).resume body.fault?).logCalls scopes := by
  simp only [logCalls, h]
  cases body.fault? with
  | none => rfl
  | some f => exact (List.append_nil _).symm

theorem fault?_attempt (body next rescue : Program) : (attempt body next rescue).fault? =
    ((Frame.attempt next rescue).resume body.fault?).fault? := by
  simp only [fault?]
  cases body.fault? <;> rfl

theorem logCalls_attempt (body next rescue : Program) (scopes : List Members) :
    (attempt body next rescue).logCalls scopes = body.logCalls scopes ++
      ((Frame.attempt next rescue).resume body.fault?).logCalls scopes := by
  simp only [logCalls]
  cases body.fault? <;> rfl

end Program

namespace Thread

variable {t t' t'' : Thread} {c : Correlation} {frames : List Frame} {fields : Members}

theorem step_of_refusal {f : Fault} (h : Correlation.refusal fields = some f) (c : Correlation)
    (body next : Program) (frames : List Frame) :
    step ⟨c, .scope fields body next, frames⟩ = ⟨c, .raise f, frames⟩ := by
  simp only [step, Correlation.enter_of_refusal c h]

theorem step_of_fit (h : Correlation.refusal fields = none) (c : Correlation)
    (body next : Program) (frames : List Frame) :
    ∃ c', step ⟨c, .scope fields body next, frames⟩ =
      ⟨c', body, .scope fields c next :: frames⟩ := by
  obtain ⟨c', henter, -⟩ := Correlation.enter_of_fit c h
  exact ⟨c', by simp only [step, henter]⟩

theorem step_ended (outcome : Option Fault) (c : Correlation) (frame : Frame)
    (frames : List Frame) : step ⟨c, .ended outcome, frame :: frames⟩ =
      ⟨frame.restore c, frame.resume outcome, frames⟩ := by
  cases outcome <;> rfl

theorem sound_step (h : t.Sound) : t.step.Sound := by
  obtain ⟨c, p, frames⟩ := t
  cases p with
  | emit r next => exact h
  | scope fields body next =>
    simp only [step]
    split
    · rename_i c' henter
      exact ⟨henter, h⟩
    · exact h
  | attempt body next rescue => exact h
  | done =>
    cases frames with
    | nil => exact h
    | cons frame frames => exact Frame.Establish.restore h
  | raise f =>
    cases frames with
    | nil => exact h
    | cons frame frames => exact Frame.Establish.restore h

/-- A step takes the first of what a thread is going to log, or leaves all of it. -/
theorem logCalls_step (t : Thread) :
    t.logCalls = (t.emits?.map fun r => ⟨r, t.scopes⟩).toList ++ t.step.logCalls := by
  obtain ⟨c, p, frames⟩ := t
  cases p with
  | emit r next => rfl
  | scope fields body next =>
    cases hrefused : Correlation.refusal fields with
    | some f =>
      -- the error takes the place of the scope
      rw [step_of_refusal hrefused]
      simp [logCalls, emits?, Program.logCalls, Program.fault?, hrefused]
    | none =>
      -- the body and what comes after it part company, in the same order
      obtain ⟨c', hstep⟩ := step_of_fit hrefused c body next frames
      simp only [hstep, logCalls, scopes, Frame.scopes_scope, Frame.logCalls,
        Program.fault?_scope hrefused body next c, Program.logCalls_scope hrefused body next c]
      exact List.append_assoc _ _ _
  | attempt body next rescue =>
    simp only [step, logCalls, scopes, Frame.scopes_attempt, Frame.logCalls,
      Program.fault?_attempt, Program.logCalls_attempt]
    exact List.append_assoc _ _ _
  | done =>
    cases frames with
    | nil => rfl
    | cons frame frames => rfl
  | raise f =>
    cases frames with
    | nil => rfl
    | cons frame frames => rfl

/-- Whether a thread comes from one state to another by steps of its own. -/
def Leads (t t' : Thread) : Prop := ∃ n, step^[n] t = t'

theorem Leads.refl (t : Thread) : t.Leads t := ⟨0, rfl⟩

theorem Leads.trans (h : t.Leads t') (h' : t'.Leads t'') : t.Leads t'' := by
  obtain ⟨m, rfl⟩ := h
  obtain ⟨n, rfl⟩ := h'
  exact ⟨n + m, Function.iterate_add_apply step n m t⟩

theorem Leads.of_step (h : t.step = t') : t.Leads t' := ⟨1, h⟩

/-- A scope is entered, and left after its body with the fields from before it. -/
theorem leads_left (hrefused : Correlation.refusal fields = none) (c : Correlation)
    (body next : Program) (frames : List Frame)
    (hbody : ∀ c frames, Leads ⟨c, body, frames⟩ ⟨c, .ended body.fault?, frames⟩) :
    Leads ⟨c, .scope fields body next, frames⟩
      ⟨c, (Frame.scope fields c next).resume body.fault?, frames⟩ := by
  obtain ⟨c', hstep⟩ := step_of_fit hrefused c body next frames
  have hbegin := (Leads.of_step hstep).trans (hbody c' (.scope fields c next :: frames))
  exact hbegin.trans (Leads.of_step (step_ended _ c' _ frames))

/-- A program comes to its end, with the same fields in force as at its beginning. -/
theorem leads_ended (p : Program) (c : Correlation) (frames : List Frame) :
    Leads ⟨c, p, frames⟩ ⟨c, .ended p.fault?, frames⟩ := by
  -- the frames are any, so that a body may be run in front of the frame of its scope
  induction p generalizing c frames with
  | done => exact Leads.refl _
  | raise f => exact Leads.refl _
  | emit r next ih => exact (Leads.of_step rfl).trans (ih c frames)
  | scope fields body next ihbody ihnext =>
    cases hrefused : Correlation.refusal fields with
    | some f =>
      have hfault : (Program.scope fields body next).fault? = some f := by
        simp only [Program.fault?, hrefused]
      rw [hfault]
      exact Leads.of_step (step_of_refusal hrefused c body next frames)
    | none =>
      have hleave := leads_left hrefused c body next frames ihbody
      rw [Program.fault?_scope hrefused body next c]
      -- an error goes on beyond the scope, with the fields from before it
      cases hbody : body.fault? with
      | some f =>
        rw [hbody] at hleave
        exact hleave
      | none =>
        rw [hbody] at hleave
        exact hleave.trans (ihnext c frames)
  | attempt body next rescue ihbody ihnext ihrescue =>
    have hbegin : Leads ⟨c, .attempt body next rescue, frames⟩ _ :=
      (Leads.of_step rfl).trans (ihbody c (.attempt next rescue :: frames))
    have hleave := hbegin.trans (Leads.of_step (step_ended _ c _ frames))
    rw [Program.fault?_attempt]
    cases hbody : body.fault? with
    | some f =>
      rw [hbody] at hleave
      exact hleave.trans (ihrescue c frames)
    | none =>
      rw [hbody] at hleave
      exact hleave.trans (ihnext c frames)

theorem leads_resume (hrefused : Correlation.refusal fields = none) (c : Correlation)
    (body next : Program) (frames : List Frame) :
    Leads ⟨c, .scope fields body next, frames⟩
      ⟨c, (Frame.scope fields c next).resume body.fault?, frames⟩ :=
  leads_left hrefused c body next frames fun c frames => leads_ended body c frames

theorem step_over (c : Correlation) (outcome : Option Fault) :
    step ⟨c, .ended outcome, []⟩ = ⟨c, .ended outcome, []⟩ := by
  cases outcome <;> rfl

theorem logCalls_over (c : Correlation) (outcome : Option Fault) :
    logCalls ⟨c, .ended outcome, []⟩ = [] := by
  cases outcome <;> rfl

end Thread

end Conform.Log
