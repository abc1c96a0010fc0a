import Conform.Proofs.Outcome
import Mathlib.Algebra.GroupWithZero.Nat
import Mathlib.Logic.Relation

/-!
A pool of workers. Jobs are submitted together and run side by side, as many at a time as there are
workers, each on a report of its own, while their notes all go to one place. They are collected in
the order of their submission, each once it is done, and what its report holds is taken over. In
whatever order the workers get on, the collection comes to what the jobs come to in turn; it always
comes to an end, and with a worker at all it is never stuck before that. For this a job must not
submit jobs itself, which would keep its worker waiting for others: it only takes notes, logs
messages and finishes.
-/
namespace Conform

/-- A job that was submitted: it waits for a worker, or has some notes to take and some messages to
log yet, or is done. -/
inductive Task where
  | queued (job : Outcome)
  | running (notes : List Note) (messages : List Diagnostic) (verdict : Except Fault Bool)
      (report : Report)
  | done (report : Report) (verdict : Except Fault Bool)

namespace Task

def isRunning : Task → Bool
  | .running .. => true
  | _ => false

/-- A job that a worker begins, on a report of a threshold. -/
def begin (level : Severity) (job : Outcome) : Task :=
  .running job.notes.reverse job.messages job.verdict ⟨level, []⟩

/-- What a worker does for a running task at a time: it takes a note, logs a message or finishes. -/
inductive Works : Task → List Note → Task → Prop where
  | note {n : Note} {ns : List Note} {ms : List Diagnostic} {v : Except Fault Bool} {r : Report} :
      Works (.running (n :: ns) ms v r) [n] (.running ns ms v r)
  | log {ns : List Note} {m : Diagnostic} {ms : List Diagnostic} {v : Except Fault Bool}
      {r : Report} : Works (.running ns (m :: ms) v r) [] (.running ns ms v (r.log m))
  | finish {v : Except Fault Bool} {r : Report} : Works (.running [] [] v r) [] (.done r v)

/-- The report and the verdict that a task ends with. -/
def final (level : Severity) : Task → Report × Except Fault Bool
  | .queued job => ((⟨level, []⟩ : Report).logAll job.messages, job.verdict)
  | .running _ messages verdict report => (report.logAll messages, verdict)
  | .done report verdict => (report, verdict)

/-- The number of moves that a task still takes. -/
def left : Task → Nat
  | .queued job => job.notes.length + job.messages.length + 3
  | .running notes messages _ _ => notes.length + messages.length + 2
  | .done _ _ => 1

variable {t t' : Task} {ns : List Note}

theorem exists_works (h : t.isRunning = true) : ∃ ns t', t.Works ns t' := by
  match t, h with
  | .running (_ :: _) _ _ _, _ => exact ⟨_, _, .note⟩
  | .running [] (_ :: _) _ _, _ => exact ⟨_, _, .log⟩
  | .running [] [] _ _, _ => exact ⟨_, _, .finish⟩

theorem Works.final_eq (h : t.Works ns t') (level : Severity) : t'.final level = t.final level := by
  cases h <;> rfl

theorem Works.left_lt (h : t.Works ns t') : t'.left < t.left := by
  cases h with
  | note => simp only [left, List.length_cons]; omega
  | log => simp only [left, List.length_cons]; omega
  | finish => simp only [left]; omega

theorem Works.isRunning (h : t.Works ns t') : t.isRunning = true := by
  cases h <;> rfl

end Task

/-- The tasks not collected yet, in the order of their submission, the journal of those who wait for
them, and the verdict so far. -/
structure Pool where
  tasks : List Task
  journal : Journal
  verdict : Bool := true

namespace Pool

/-- The number of workers that have something to do. -/
def busy (p : Pool) : Nat := p.tasks.countP Task.isRunning

/-- A worker that is free begins any job, one at work gets on with its task, or the first task is
collected, if it is done and did not fail. -/
inductive Move (workers : Nat) : Pool → Pool → Prop where
  | start {pre post : List Task} {job : Outcome} {j : Journal} {b : Bool}
      (hfree : busy ⟨pre ++ .queued job :: post, j, b⟩ < workers) :
      Move workers ⟨pre ++ .queued job :: post, j, b⟩
        ⟨pre ++ Task.begin j.report.level job :: post, j, b⟩
  | work {pre post : List Task} {t t' : Task} {ns : List Note} {j : Journal} {b : Bool}
      (h : t.Works ns t') :
      Move workers ⟨pre ++ t :: post, j, b⟩ ⟨pre ++ t' :: post, j.note ns, b⟩
  | collect {rest : List Task} {r : Report} {x : Bool} {j : Journal} {b : Bool} :
      Move workers ⟨.done r (.ok x) :: rest, j, b⟩ ⟨rest, j.logAll r.messages, b && x⟩

def Runs (workers : Nat) : Pool → Pool → Prop := Relation.ReflTransGen (Move workers)

/-- Everything is collected, or the first task has failed. -/
def Ended (p : Pool) : Prop := p.tasks = [] ∨ ∃ r f rest, p.tasks = .done r (.error f) :: rest

/-- What has become of the journal, and the joined verdict or the fault that ended it all. -/
def result (p : Pool) : Journal × Except Fault Bool :=
  match p.tasks with
  | .done _ (.error f) :: _ => (p.journal, .error f)
  | _ => (p.journal, .ok p.verdict)

def submit (jobs : List Outcome) (j : Journal) : Pool := ⟨jobs.map .queued, j, true⟩

/-- Takes reports over in turn and joins their verdicts, up to a fault. -/
def settle (r : Report) (b : Bool) : List (Report × Except Fault Bool) → Report × Except Fault Bool
  | [] => (r, .ok b)
  | (_, .error f) :: _ => (r, .error f)
  | (own, .ok x) :: rest => settle (r.logAll own.messages) (b && x) rest

/-- The report and the verdict that the tasks of a pool come to if they end one after the other. -/
def comesTo (p : Pool) : Report × Except Fault Bool :=
  settle p.journal.report p.verdict (p.tasks.map (Task.final p.journal.report.level))

variable {workers : Nat} {p q : Pool}

/-- No move changes what the pool comes to. -/
theorem Move.comesTo_eq (h : Move workers p q) : q.comesTo = p.comesTo := by
  cases h with
  | start _ =>
    simp only [comesTo, List.map_append, List.map_cons]
    rfl
  | @work _ _ t t' ns j _ h =>
    have hreport : (j.note ns).report = j.report := rfl
    simp only [comesTo, hreport, List.map_append, List.map_cons, h.final_eq]
  | @collect _ r _ j _ =>
    have hlevel : (j.logAll r.messages).report.level = j.report.level := by
      simp only [Journal.logAll, Report.logAll_eq]
    simp only [comesTo, hlevel]
    rfl

theorem Runs.comesTo_eq (h : Runs workers p q) : q.comesTo = p.comesTo := by
  induction h with
  | refl => rfl
  | tail _ hmove ih => exact hmove.comesTo_eq.trans ih

theorem Ended.comesTo_eq (h : p.Ended) : p.comesTo = (p.result.1.report, p.result.2) := by
  obtain ⟨tasks, j, b⟩ := p
  rcases h with h | ⟨r, f, rest, h⟩
  · simp only at h
    subst h
    rfl
  · simp only at h
    subst h
    rfl

/-- Jobs that are submitted come to what they come to in turn, each apart from the others. -/
theorem comesTo_submit (jobs : List Outcome) (j : Journal) (b : Bool) :
    comesTo ⟨jobs.map .queued, j, b⟩ =
      (j.report.logAll (Outcome.all (jobs.map .apart)).messages,
        (Outcome.all jobs).verdict.map (b && ·)) := by
  have hsettle (r : Report) (b : Bool) : settle r b ((jobs.map Task.queued).map (Task.final r.level)) =
      (r.logAll (Outcome.all (jobs.map .apart)).messages,
        (Outcome.all jobs).verdict.map (b && ·)) := by
    induction jobs generalizing r b with
    | nil => simp [settle, Outcome.all, Except.map]
    | cons o jobs ih =>
      simp only [List.map_cons, Outcome.all, Outcome.verdict_andThen]
      cases hv : o.verdict with
      | error f =>
        simp only [Task.final, settle, Outcome.andThen, Outcome.apart, hv, Report.logAll_nil]
        rfl
      | ok x =>
        -- the report of the first is of the same threshold as that of the others
        have hlevel : (r.logAll o.messages).level = r.level := by rw [Report.logAll_eq]
        have hrest := ih (r.logAll o.messages) (b && x)
        rw [hlevel] at hrest
        simp only [Task.final, settle, Outcome.andThen, Outcome.apart, hv, Report.logAll_apart,
          Report.logAll_append, hrest]
        cases (Outcome.all jobs).verdict <;> simp [Except.map, Except.bind, Bool.and_assoc]
  exact hsettle j.report b

/-- Whatever the workers do first, and however many they are, what is collected in the end is what
the jobs come to in turn. -/
theorem result_of_runs {jobs : List Outcome} {j : Journal} (h : Runs workers (submit jobs j) p)
    (hended : p.Ended) :
    p.result.1.report = j.report.logAll (Outcome.all (jobs.map .apart)).messages ∧
      p.result.2 = (Outcome.all jobs).verdict := by
  have hresult := hended.comesTo_eq.symm.trans (h.comesTo_eq.trans (comesTo_submit jobs j true))
  obtain ⟨hreport, hverdict⟩ := Prod.mk.inj hresult
  refine ⟨hreport, hverdict.trans ?_⟩
  cases (Outcome.all jobs).verdict <;> rfl

/-- There are never more tasks at work than workers. -/
theorem Move.busy_le (h : Move workers p q) (hp : p.busy ≤ workers) : q.busy ≤ workers := by
  cases h with
  | start hfree =>
    simp only [busy, List.countP_append, List.countP_cons, Task.isRunning, Task.begin] at hfree ⊢
    simp at hfree ⊢
    omega
  | work h =>
    simp only [busy, List.countP_append, List.countP_cons, h.isRunning, ↓reduceIte] at hp ⊢
    split <;> omega
  | collect => simpa [busy, Task.isRunning] using hp

/-- With a worker at all, a pool that has not ended can move. -/
theorem exists_move (hworkers : 0 < workers) (h : ¬ p.Ended) : ∃ q, Move workers p q := by
  obtain ⟨tasks, j, b⟩ := p
  by_cases hrunning : ∃ t ∈ tasks, t.isRunning = true
  · obtain ⟨t, ht, hrunning⟩ := hrunning
    obtain ⟨pre, post, rfl⟩ := List.append_of_mem ht
    obtain ⟨ns, t', hworks⟩ := Task.exists_works hrunning
    exact ⟨_, .work hworks⟩
  · -- no worker has anything to do, so the first task waits or is done
    have hbusy : busy ⟨tasks, j, b⟩ = 0 := by
      refine List.countP_eq_zero.mpr ?_
      intro t ht hrun
      exact hrunning ⟨t, ht, hrun⟩
    match tasks with
    | [] => exact absurd (.inl rfl) h
    | .queued job :: rest =>
      have hfree : busy ⟨[] ++ .queued job :: rest, j, b⟩ < workers := by
        rw [List.nil_append, hbusy]
        exact hworkers
      exact ⟨_, .start hfree⟩
    | .running ns ms v r :: rest => exact absurd ⟨_, List.mem_cons_self, rfl⟩ hrunning
    | .done r (.ok x) :: rest => exact ⟨_, .collect⟩
    | .done r (.error f) :: rest => exact absurd (.inr ⟨r, f, rest, rfl⟩) h

/-- The number of moves that are left at most. -/
def left (p : Pool) : Nat := (p.tasks.map Task.left).sum

theorem Move.left_lt (h : Move workers p q) : q.left < p.left := by
  cases h with
  | start _ =>
    simp only [left, List.map_append, List.map_cons, List.sum_append, List.sum_cons, Task.begin,
      Task.left, List.length_reverse]
    omega
  | work h =>
    have hlt := h.left_lt
    simp only [left, List.map_append, List.map_cons, List.sum_append, List.sum_cons]
    omega
  | collect =>
    simp only [left, List.map_cons, List.sum_cons, Task.left]
    omega

/-- A pool does not go on forever, whoever moves. -/
theorem wellFounded_move (workers : Nat) : WellFounded fun q p : Pool => Move workers p q :=
  Subrelation.wf Move.left_lt (measure left).wf

/-- A pool with a worker ends. -/
theorem exists_ended (hworkers : 0 < workers) (p : Pool) : ∃ q, Runs workers p q ∧ q.Ended := by
  induction p using (wellFounded_move workers).induction with
  | _ p ih =>
    by_cases hended : p.Ended
    · exact ⟨p, .refl, hended⟩
    · obtain ⟨q, hmove⟩ := exists_move hworkers hended
      obtain ⟨last, hruns, hlast⟩ := ih q hmove
      exact ⟨last, .head hmove hruns, hlast⟩

/-- A worker that is left to itself takes all notes and logs all messages of its task. -/
theorem runs_work (workers : Nat) (ns : List Note) (ms : List Diagnostic) (v : Except Fault Bool)
    (r : Report) (rest : List Task) (j : Journal) (b : Bool) :
    Runs workers ⟨.running ns ms v r :: rest, j, b⟩
      ⟨.done (r.logAll ms) v :: rest, j.note ns, b⟩ := by
  have hwork {t t' : Task} {ns : List Note} (j : Journal) (h : t.Works ns t') :
      Move workers ⟨t :: rest, j, b⟩ ⟨t' :: rest, j.note ns, b⟩ :=
    @Move.work workers [] rest t t' ns j b h
  -- first come the notes, then the messages
  induction ns generalizing j with
  | nil =>
    induction ms generalizing r with
    | nil => exact .single (hwork j .finish)
    | cons m ms ih => exact .head (hwork j .log) (ih (r.log m))
  | cons n ns ih =>
    have hnotes : j.note (n :: ns) = (j.note [n]).note ns := by
      simp [Journal.note]
    rw [hnotes]
    exact .head (hwork j .note) (ih (j.note [n]))

/-- One way to go is to begin each job only when the one before it is collected. -/
theorem runs_in_turn (hworkers : 0 < workers) (jobs : List Outcome) (j : Journal) (b : Bool) :
    ∃ p, Runs workers ⟨jobs.map .queued, j, b⟩ p ∧ p.Ended ∧
      p.result = (((Outcome.all (jobs.map .apart)).onto j).1,
        (Outcome.all jobs).verdict.map (b && ·)) := by
  induction jobs generalizing j b with
  | nil => exact ⟨_, .refl, .inl rfl, by simp [result, Outcome.all, Outcome.onto, Except.map]⟩
  | cons o jobs ih =>
    have hfree : busy ⟨[] ++ .queued o :: jobs.map .queued, j, b⟩ < workers := by
      have hbusy : busy ⟨[] ++ .queued o :: jobs.map .queued, j, b⟩ = 0 := by
        simp [busy, Task.isRunning, List.countP_eq_zero]
      omega
    have hstart : Move workers ⟨.queued o :: jobs.map .queued, j, b⟩
        ⟨Task.begin j.report.level o :: jobs.map .queued, j, b⟩ :=
      @Move.start workers [] (jobs.map .queued) o j b hfree
    have hdone := Relation.ReflTransGen.head hstart
      (runs_work workers o.notes.reverse o.messages o.verdict ⟨j.report.level, []⟩
        (jobs.map .queued) j b)
    rw [List.map_cons]
    cases hv : o.verdict with
    | error f =>
      rw [hv] at hdone
      refine ⟨_, hdone, .inr ⟨_, f, _, rfl⟩, ?_⟩
      simp [result, Outcome.all, Outcome.andThen, Outcome.apart, Outcome.onto, Journal.note, hv,
        Except.map]
    | ok x =>
      rw [hv] at hdone
      obtain ⟨p, hruns, hended, hresult⟩ := ih
        ((j.note o.notes.reverse).logAll
          ((⟨j.report.level, []⟩ : Report).logAll o.messages).messages) (b && x)
      refine ⟨p, (hdone.tail .collect).trans hruns, hended, ?_⟩
      rw [hresult]
      simp only [Journal.logAll, Journal.note, Outcome.onto, Outcome.all, Outcome.andThen,
        Outcome.apart, hv, Report.logAll_apart, Report.logAll_append, List.map_cons,
        List.reverse_reverse, List.append_assoc]
      cases (Outcome.all jobs).verdict <;> simp [Except.map, Bool.and_assoc]

end Pool

end Conform
