import Conform.Proofs.Sessions
import Conform.Proofs.Threads

/-!
Delivery of log records. Any threads log in front of one queue, from which one consumer takes
records; they take turns in any order. A record is stamped and offered to the queue in the step
that logs it. Main statement: whatever has been taken and then what waits are the records that
found room, in the order in which they were logged and stamped with the fields of the scopes around
their log calls; the others were dropped in front of a full queue, or could not be written out; and
no thread sees what the others do.
-/
namespace Conform.Log

namespace Queue

/-- Takes in a record stamped with the fields in force, if it can be written out. -/
def receive (q : Queue Record) (c : Correlation) (r : Record) : Queue Record :=
  match r.prepared c with
  | .ok copy => q.offer copy
  | .error _ => q

end Queue

/-- What a session offers to a handle is received by the queue of the handle. -/
theorem Session.offer_eq_receive {s : Session} {n : Nat} {h : Handle} {r : Record}
    (hn : s.handles[n]? = some h) (hlevel : h.level ≤ r.level) :
    s.offer n r = s.modifyHandle n fun h =>
      { h with queue := h.queue.receive s.correlation r } := by
  unfold offer Queue.receive
  cases hcopy : r.prepared s.correlation with
  | ok copy => simp only [hn, if_pos hlevel]
  | error f =>
    simp only [hn, if_pos hlevel]
    exact (modifyHandle_of_eq hn rfl).symm

/-- A log call that was made. -/
structure Emission extends LogCall where
  thread : Nat
  /-- The fields in force on the thread. -/
  context : Correlation
  /-- Whether the queue was full. -/
  full : Bool

namespace Emission

/-- The record as it is offered to the queue, if it can be written out. -/
def copy? (m : Emission) : Option Record := (m.record.prepared m.context).toOption

/-- The record that was put into the queue. -/
def queued? (m : Emission) : Option Record := if m.full then none else m.copy?

def isDropped (m : Emission) : Bool := m.full && m.copy?.isSome

/-- Whether the text of the record could not be made. -/
def isFaulty (m : Emission) : Bool := m.copy?.isNone

variable {m : Emission} {copy : Record}

theorem receive_of_none (h : m.copy? = none) (q : Queue Record) :
    q.receive m.context m.record = q := by
  unfold copy? at h
  unfold Queue.receive
  cases hcopy : m.record.prepared m.context with
  | ok copy =>
    rw [hcopy] at h
    cases h
  | error f => rfl

theorem receive_of_some (h : m.copy? = some copy) (q : Queue Record) :
    q.receive m.context m.record = q.offer copy := by
  have hcopy : m.record.prepared m.context = .ok copy := Answer.ok_of_toOption h
  unfold Queue.receive
  rw [hcopy]

/-- Whether a record carries just the fields of the scopes around its log call, or where there are
none what its log call gave it. -/
structure Carries (m : Emission) (copy : Record) : Prop where
  fields : ∀ name text, Correlation.inForce m.scopes name = some text →
    ∃ ms, copy.correlation = some (.obj ms) ∧ (Members.keys ms).Nodup ∧
      ∀ k, Members.get? ms k = (Correlation.inForce m.scopes k).map Value.str
  own : (∀ name, Correlation.inForce m.scopes name = none) →
    copy.correlation = m.record.correlation

theorem carries_of_copy (hnodup : m.context.Established)
    (hlookup : ∀ name, m.context.lookup name = Correlation.inForce m.scopes name)
    (h : m.copy? = some copy) : m.Carries copy := by
  obtain ⟨text, -, hcopy⟩ := Answer.do_ok.mp (Answer.ok_of_toOption h)
  have hcorrelation : copy.correlation =
      if m.context.isEmpty then m.record.correlation else some (.obj m.context.members) := by
    rw [← Except.ok.inj hcopy]
  constructor
  · intro name text hname
    have hsome : m.context ≠ [] := by
      intro hnil
      rw [← hlookup, hnil] at hname
      cases hname
    rw [if_neg (by simpa using hsome)] at hcorrelation
    refine ⟨m.context.members, hcorrelation, ?_, fun k => ?_⟩
    · rw [Correlation.keys_members]
      exact hnodup.nodup
    · rw [Correlation.get?_members, hlookup]
  · intro hnone
    have hnil : m.context = [] :=
      Correlation.eq_nil_iff_lookup.mpr fun name => (hlookup name).trans (hnone name)
    rw [hcorrelation, hnil]
    rfl

/-- What became of a log call: no record could be made of it, or one that was dropped, or one that
was put into the queue. -/
inductive Fate (m : Emission) : Prop
  | faulty (hcopy : m.copy? = none) (hqueued : m.queued? = none) (hdropped : m.isDropped = false)
      (hfaulty : m.isFaulty = true)
  | dropped (copy : Record) (hcopy : m.copy? = some copy) (hfull : m.full = true)
      (hqueued : m.queued? = none) (hdropped : m.isDropped = true) (hfaulty : m.isFaulty = false)
  | queued (copy : Record) (hcopy : m.copy? = some copy) (hfull : m.full = false)
      (hqueued : m.queued? = some copy) (hdropped : m.isDropped = false)
      (hfaulty : m.isFaulty = false)

theorem fate (m : Emission) : m.Fate := by
  cases hcopy : m.copy? with
  | none =>
    apply Fate.faulty hcopy
    · simp [queued?, hcopy]
    · simp [isDropped, hcopy]
    · simp [isFaulty, hcopy]
  | some copy =>
    have hfaulty : m.isFaulty = false := by simp [isFaulty, hcopy]
    cases hfull : m.full with
    | true =>
      apply Fate.dropped copy hcopy hfull _ _ hfaulty
      · simp [queued?, hfull]
      · simp [isDropped, hcopy, hfull]
    | false =>
      apply Fate.queued copy hcopy hfull _ _ hfaulty
      · simp [queued?, hcopy, hfull]
      · simp [isDropped, hfull]

/-- Every log call is counted once. -/
theorem length_eq (ms : List Emission) : ms.length =
    (ms.filterMap queued?).length + ms.countP isDropped + ms.countP isFaulty := by
  induction ms with
  | nil => rfl
  | cons m ms ih =>
    rw [List.length_cons, ih, List.filterMap_cons, List.countP_cons, List.countP_cons]
    cases m.fate with
    | faulty _ hqueued hdropped hfaulty =>
      simp only [hqueued, hdropped, hfaulty, Bool.false_eq_true, if_true, if_false]
      omega
    | dropped _ _ _ hqueued hdropped hfaulty =>
      simp only [hqueued, hdropped, hfaulty, Bool.false_eq_true, if_true, if_false]
      omega
    | queued _ _ _ hqueued hdropped hfaulty =>
      simp only [hqueued, hdropped, hfaulty, Bool.false_eq_true, if_false, List.length_cons]
      omega

end Emission

/-- Threads and a consumer at the two ends of a queue, with what happened so far. -/
structure System where
  threads : List Thread
  queue : Queue Record
  taken : List Record := []
  emitted : List Emission := []

inductive Turn where
  | thread (i : Nat)
  | consumer
  deriving DecidableEq

namespace System

def start (programs : List Program) (size : Nat) : System :=
  { threads := programs.map fun p => { program := p }, queue := .ofSize size }

def log (s : System) (m : Emission) : System :=
  { s with queue := s.queue.receive m.context m.record, emitted := s.emitted ++ [m] }

def take (s : System) : System :=
  match s.queue.take? with
  | some (r, q) => { s with queue := q, taken := s.taken ++ [r] }
  | none => s

def step (s : System) : Turn → System
  | .consumer => s.take
  | .thread i =>
    match s.threads[i]? with
    | none => s
    | some t =>
      let s' := match t.emits? with
        | some r => s.log ⟨⟨r, t.scopes⟩, i, t.context, s.queue.isFull⟩
        | none => s
      { s' with threads := s.threads.set i t.step }

def run (s : System) (turns : List Turn) : System := turns.foldl step s

/-- What one thread has logged. -/
def logCallsOf (s : System) (i : Nat) : List LogCall :=
  (s.emitted.filter (·.thread == i)).map (·.toLogCall)

/-- What a turn does. -/
inductive Does (s : System) : Turn → System → Prop
  | take : s.Does .consumer s.take
  | idle {i : Nat} (hi : s.threads[i]? = none) : s.Does (.thread i) s
  | move {i : Nat} {t : Thread} (hi : s.threads[i]? = some t) (hr : t.emits? = none) :
      s.Does (.thread i) { s with threads := s.threads.set i t.step }
  | log {i : Nat} {t : Thread} {r : Record} (hi : s.threads[i]? = some t)
      (hr : t.emits? = some r) : s.Does (.thread i)
        { s.log ⟨⟨r, t.scopes⟩, i, t.context, s.queue.isFull⟩ with
          threads := s.threads.set i t.step }

variable {s s' : System} {turn : Turn} {i size : Nat} {t : Thread} {programs : List Program}

theorem does_step (s : System) (turn : Turn) : s.Does turn (s.step turn) := by
  cases turn with
  | consumer => exact .take
  | thread i =>
    cases hi : s.threads[i]? with
    | none =>
      simp only [step, hi]
      exact .idle hi
    | some t =>
      cases hr : t.emits? with
      | none =>
        simp only [step, hi, hr]
        exact .move hi hr
      | some r =>
        simp only [step, hi, hr]
        exact .log hi hr

/-- What holds of the queue and of the log calls at every moment. -/
structure Sound (size : Nat) (s : System) : Prop where
  capacity : s.queue.capacity = some size
  bounded : s.queue.waiting.length ≤ size
  order : s.taken ++ s.queue.waiting = s.emitted.filterMap Emission.queued?
  dropped : s.queue.dropped = s.emitted.countP Emission.isDropped
  stamped : ∀ m ∈ s.emitted, m.context.Established ∧
    ∀ name, m.context.lookup name = Correlation.inForce m.scopes name
  owned : ∀ m ∈ s.emitted, m.thread < s.threads.length
  threads : ∀ t ∈ s.threads, t.Sound

theorem sound_start (programs : List Program) (size : Nat) :
    (start programs (size + 1)).Sound (size + 1) where
  capacity := by simp [start, Queue.ofSize]
  bounded := Nat.zero_le _
  order := rfl
  dropped := rfl
  stamped m hm := nomatch hm
  owned m hm := nomatch hm
  threads t ht := by
    obtain ⟨p, -, rfl⟩ := List.mem_map.mp ht
    exact rfl

/-- The consumer moves a record from the front of the queue behind those that it took before. -/
theorem sound_take (h : s.Sound size) : s.take.Sound size := by
  unfold take
  cases hwaiting : s.queue.waiting with
  | nil =>
    have hnone : s.queue.take? = none := by simp only [Queue.take?, hwaiting]
    simp only [hnone]
    exact h
  | cons r rest =>
    have hsome : s.queue.take? = some (r, { s.queue with waiting := rest }) := by
      simp only [Queue.take?, hwaiting]
    simp only [hsome]
    have hbounded := h.bounded
    rw [hwaiting, List.length_cons] at hbounded
    refine ⟨h.capacity, ?_, ?_, h.dropped, h.stamped, h.owned, h.threads⟩
    · show rest.length ≤ size
      omega
    · calc (s.taken ++ [r]) ++ rest = s.taken ++ (r :: rest) := List.append_assoc _ _ _
        _ = s.emitted.filterMap Emission.queued? := by rw [← hwaiting, h.order]

/-- Whatever becomes of a log call, it is counted, and a copy that is queued stands last. -/
theorem sound_log (h : s.Sound size) {m : Emission} (hfull : m.full = s.queue.isFull)
    (hcontext : m.context.Established ∧
      ∀ name, m.context.lookup name = Correlation.inForce m.scopes name)
    (hthread : m.thread < s.threads.length) : (s.log m).Sound size := by
  have hstamped : ∀ m' ∈ s.emitted ++ [m], m'.context.Established ∧
      ∀ name, m'.context.lookup name = Correlation.inForce m'.scopes name :=
    List.forall_mem_append.mpr ⟨h.stamped, List.forall_mem_singleton.mpr hcontext⟩
  have howned : ∀ m' ∈ s.emitted ++ [m], m'.thread < s.threads.length :=
    List.forall_mem_append.mpr ⟨h.owned, List.forall_mem_singleton.mpr hthread⟩
  have horder : (s.log m).emitted.filterMap Emission.queued? =
      s.taken ++ s.queue.waiting ++ m.queued?.toList := by
    rw [log, List.filterMap_append, ← h.order, List.filterMap_cons]
    cases m.queued? <;> rfl
  have hcount : (s.log m).emitted.countP Emission.isDropped =
      s.queue.dropped + if m.isDropped then 1 else 0 := by
    rw [log, List.countP_append, ← h.dropped, List.countP_singleton]
  have hqueue {copy : Record} (hcopy : m.copy? = some copy) :
      (s.log m).queue = s.queue.offer copy := m.receive_of_some hcopy s.queue
  cases m.fate with
  | faulty hcopy hqueued hdropped hfaulty =>
    have hstays : (s.log m).queue = s.queue := m.receive_of_none hcopy s.queue
    refine ⟨?_, ?_, ?_, ?_, hstamped, howned, h.threads⟩
    · rw [hstays, h.capacity]
    · rw [hstays]
      exact h.bounded
    · rw [horder, hqueued, hstays]
      exact (List.append_nil _).symm
    · rw [hcount, hdropped, hstays]
      rfl
  | dropped copy hcopy hmark hqueued hdropped hfaulty =>
    rw [hfull] at hmark
    have hoffer : (s.log m).queue = { s.queue with dropped := s.queue.dropped + 1 } := by
      rw [hqueue hcopy, Queue.offer, if_pos hmark]
    refine ⟨?_, ?_, ?_, ?_, hstamped, howned, h.threads⟩
    · rw [hoffer, h.capacity]
    · rw [hoffer]
      exact h.bounded
    · rw [horder, hqueued, hoffer]
      exact (List.append_nil _).symm
    · rw [hcount, hdropped, hoffer]
      rfl
  | queued copy hcopy hmark hqueued hdropped hfaulty =>
    rw [hfull] at hmark
    have hoffer : (s.log m).queue = { s.queue with waiting := s.queue.waiting ++ [copy] } := by
      rw [hqueue hcopy, Queue.offer, if_neg (by simp [hmark])]
    -- there is room for one more, so the queue stays within its size
    have hroom : s.queue.waiting.length < size := by
      simpa [Queue.isFull, h.capacity] using hmark
    refine ⟨?_, ?_, ?_, ?_, hstamped, howned, h.threads⟩
    · rw [hoffer, h.capacity]
    · rw [hoffer, List.length_append, List.length_singleton]
      omega
    · rw [horder, hqueued, hoffer]
      exact (List.append_assoc _ _ _).symm
    · rw [hcount, hdropped, hoffer]
      rfl

theorem sound_set (h : s.Sound size) (i : Nat) (ht : t.Sound) :
    ({ s with threads := s.threads.set i t } : System).Sound size where
  capacity := h.capacity
  bounded := h.bounded
  order := h.order
  dropped := h.dropped
  stamped := h.stamped
  owned m hm := by
    rw [List.length_set]
    exact h.owned m hm
  threads t' ht' := by
    rcases List.mem_or_eq_of_mem_set ht' with ht' | rfl
    · exact h.threads t' ht'
    · exact ht

theorem Does.sound (h : s.Does turn s') (hs : s.Sound size) : s'.Sound size := by
  cases h with
  | take => exact sound_take hs
  | idle hi => exact hs
  | @move i t hi hr =>
    have ht : t.Sound := hs.threads t (List.mem_of_getElem? hi)
    exact sound_set hs i (Thread.sound_step ht)
  | @log i t r hi hr =>
    have ht : t.Sound := hs.threads t (List.mem_of_getElem? hi)
    have hlog := sound_log hs (m := ⟨⟨r, t.scopes⟩, i, t.context, s.queue.isFull⟩) rfl
      ⟨Frame.Establish.established ht, Frame.Establish.lookup ht⟩
      (List.getElem?_eq_some_iff.mp hi).1
    exact sound_set hlog i (Thread.sound_step ht)

theorem sound_run (hs : s.Sound size) (turns : List Turn) : (s.run turns).Sound size := by
  induction turns generalizing s with
  | nil => exact hs
  | cons turn turns ih => exact ih ((does_step s turn).sound hs)

theorem take_keeps (s : System) : s.take.threads = s.threads ∧ s.take.emitted = s.emitted := by
  unfold take
  split <;> exact ⟨rfl, rfl⟩

/-- A thread sees nothing of the turns of others. -/
theorem Does.of_ne (h : s.Does turn s') (hne : turn ≠ .thread i) :
    s'.threads[i]? = s.threads[i]? ∧ s'.logCallsOf i = s.logCallsOf i := by
  cases h with
  | take =>
    obtain ⟨hthreads, hemitted⟩ := take_keeps s
    rw [hthreads, logCallsOf, hemitted]
    exact ⟨rfl, rfl⟩
  | idle hj => exact ⟨rfl, rfl⟩
  | @move j t hj hr =>
    have hother : j ≠ i := fun hji => hne (congrArg Turn.thread hji)
    exact ⟨List.getElem?_set_ne hother, rfl⟩
  | @log j t r hj hr =>
    have hother : j ≠ i := fun hji => hne (congrArg Turn.thread hji)
    refine ⟨List.getElem?_set_ne hother, ?_⟩
    simp [logCallsOf, System.log, List.filter_append, hother]

/-- In its own turn a thread takes a step, and what this logs is added to what it has logged. -/
theorem Does.self (h : s.Does (.thread i) s') (hi : s.threads[i]? = some t) :
    s'.threads[i]? = some t.step ∧
      s'.logCallsOf i ++ t.step.logCalls = s.logCallsOf i ++ t.logCalls := by
  have hlt := (List.getElem?_eq_some_iff.mp hi).1
  rw [t.logCalls_step]
  cases h with
  | idle hnone =>
    rw [hnone] at hi
    cases hi
  | move hi' hr =>
    obtain rfl := Option.some.inj (hi'.symm.trans hi)
    refine ⟨List.getElem?_set_self hlt, ?_⟩
    simp [hr, logCallsOf]
  | log hi' hr =>
    obtain rfl := Option.some.inj (hi'.symm.trans hi)
    refine ⟨List.getElem?_set_self hlt, ?_⟩
    simp [hr, logCallsOf, System.log, List.filter_append]

theorem thread_run (hi : s.threads[i]? = some t) (turns : List Turn) :
    (s.run turns).threads[i]? = some (Thread.step^[turns.count (.thread i)] t) ∧
      (s.run turns).logCallsOf i ++ (Thread.step^[turns.count (.thread i)] t).logCalls =
        s.logCallsOf i ++ t.logCalls := by
  induction turns generalizing s t with
  | nil => exact ⟨hi, rfl⟩
  | cons turn turns ih =>
    -- what was logged and what is left to log make up the same list after every turn
    by_cases h : turn = .thread i
    · subst h
      obtain ⟨hthread, hcalls⟩ := (does_step s (.thread i)).self hi
      rw [List.count_cons_self, Function.iterate_succ_apply, ← hcalls]
      exact ih hthread
    · obtain ⟨hthread, hcalls⟩ := (does_step s turn).of_ne h
      rw [List.count_cons_of_ne h, ← hcalls]
      exact ih (hthread.trans hi)

/-- Whether a thread is in a state after some turns of its own, whatever turns the others take. -/
def ComesTo (s : System) (i n : Nat) (t : Thread) : Prop :=
  ∀ turns : List Turn, turns.count (.thread i) = n → (s.run turns).threads[i]? = some t

theorem comesTo_step (hi : s.threads[i]? = some t) : s.ComesTo i 1 t.step := by
  intro turns hn
  rw [(thread_run hi turns).1, hn]
  rfl

theorem comesTo_of_leads {t' : Thread} (hi : s.threads[i]? = some t) (h : t.Leads t') :
    ∃ n, s.ComesTo i n t' := by
  obtain ⟨n, rfl⟩ := h
  refine ⟨n, fun turns hn => ?_⟩
  rw [(thread_run hi turns).1, hn]

theorem Does.length (h : s.Does turn s') : s'.threads.length = s.threads.length := by
  cases h with
  | take => rw [(take_keeps s).1]
  | idle hi => rfl
  | move hi hr => exact List.length_set
  | log hi hr => exact List.length_set

theorem length_run (s : System) (turns : List Turn) :
    (s.run turns).threads.length = s.threads.length := by
  induction turns generalizing s with
  | nil => rfl
  | cons turn turns ih => exact (ih (s.step turn)).trans (does_step s turn).length

theorem run_append (s : System) (turns more : List Turn) :
    s.run (turns ++ more) = (s.run turns).run more := List.foldl_append

theorem thread_start (size : Nat) {p : Program} (hp : programs[i]? = some p) :
    (start programs size).threads[i]? = some { program := p } := by
  rw [start, List.getElem?_map, hp]
  rfl

/-- What is left of the log calls of a program, after any turns. -/
theorem logCallsOf_start (size : Nat) {p : Program} (hp : programs[i]? = some p)
    (turns : List Turn) : ((start programs size).run turns).logCallsOf i ++
      (Thread.step^[turns.count (.thread i)] { program := p }).logCalls = p.logCalls [] := by
  have hrun := (thread_run (thread_start size hp) turns).2
  have hwhole : (start programs size).logCallsOf i ++ ({ program := p } : Thread).logCalls =
      p.logCalls [] := List.append_nil _
  exact hrun.trans hwhole

/-- A thread that gets turns enough logs all that its program tells. -/
theorem logCallsOf_eventually (size : Nat) {p : Program} (hp : programs[i]? = some p) :
    ∃ n, ∀ turns : List Turn, n ≤ turns.count (.thread i) →
      ((start programs size).run turns).logCallsOf i = p.logCalls [] := by
  obtain ⟨n, hn⟩ := Thread.leads_ended p [] []
  refine ⟨n, fun turns hturns => ?_⟩
  -- a thread that is over stays so, however many turns it gets after that
  have hover : Thread.step^[turns.count (.thread i)] { program := p } =
      ⟨[], .ended p.fault?, []⟩ := by
    obtain ⟨k, hk⟩ := Nat.exists_eq_add_of_le' hturns
    rw [hk, Function.iterate_add_apply, hn]
    exact Function.iterate_fixed (Thread.step_over [] _) k
  have hrest := logCallsOf_start size hp turns
  rw [hover, Thread.logCalls_over] at hrest
  exact (List.append_nil _).symm.trans hrest

theorem dropped_offer (q : Queue Record) (r : Record)
    (h : q.dropped < (q.offer r).dropped) : q.isFull = true := by
  unfold Queue.offer at h
  split at h
  · assumption
  · exact absurd h (Nat.lt_irrefl _)

/-- A turn that changes the count of dropped records offers a record to the queue. -/
theorem Does.dropped (h : s.Does turn s') :
    s'.queue.dropped = s.queue.dropped ∨ ∃ copy, s'.queue = s.queue.offer copy := by
  cases h with
  | take =>
    left
    simp only [System.take, Queue.take?]
    cases s.queue.waiting <;> rfl
  | idle hi => exact .inl rfl
  | move hi hr => exact .inl rfl
  | @log i t r hi hr =>
    let m : Emission := ⟨⟨r, t.scopes⟩, i, t.context, s.queue.isFull⟩
    cases hcopy : m.copy? with
    | none => exact .inl (congrArg Queue.dropped (m.receive_of_none hcopy s.queue))
    | some copy => exact .inr ⟨copy, m.receive_of_some hcopy s.queue⟩

/-- Only in front of a full queue is a record dropped. -/
theorem Sound.full_of_dropped (hs : s.Sound size) (h : s.Does turn s')
    (hdrop : s.queue.dropped < s'.queue.dropped) : s.queue.waiting.length = size := by
  rcases h.dropped with hsame | ⟨copy, hoffer⟩
  · omega
  · rw [hoffer] at hdrop
    have hfull := dropped_offer s.queue copy hdrop
    have hcapacity : size ≤ s.queue.waiting.length := by
      simpa [Queue.isFull, hs.capacity] using hfull
    have hbounded := hs.bounded
    omega

/-- Records are conserved, and stamped when they are logged. Of any threads in front of a queue of
any size from one on, in any order of turns: what was taken and then what waits are the records
that found room, in the order in which they were logged; every other record was dropped, and then
the queue was full, or its text could not be made; and no more wait than the queue holds. A record
carries the fields of the scopes around its log call in the program of its own thread, and what a
thread logs does not depend on the others. A scope with a field that is not fit is an error at once,
with the fields in force as they were. From any other the thread comes back to the fields from
before it, at what comes next, or at the error with which the body ended. -/
theorem records_conserved (programs : List Program) (size : Nat) (turns : List Turn) :
    let s := (start programs (size + 1)).run turns
    (s.taken ++ s.queue.waiting = s.emitted.filterMap Emission.queued? ∧
      s.emitted.length = s.taken.length + s.queue.waiting.length + s.queue.dropped +
        s.emitted.countP Emission.isFaulty ∧
      s.queue.waiting.length ≤ size + 1 ∧
      ∀ turn, s.queue.dropped < (s.step turn).queue.dropped →
        s.queue.waiting.length = size + 1) ∧
    (∀ m ∈ s.emitted, m.thread < programs.length ∧
      ∀ copy, m.copy? = some copy → m.Carries copy) ∧
    (∀ i p, programs[i]? = some p → s.logCallsOf i <+: p.logCalls [] ∧
      ∃ n, ∀ more : List Turn, n ≤ more.count (.thread i) →
        (s.run more).logCallsOf i = p.logCalls []) ∧
    ∀ i t fields body next, s.threads[i]? = some t → t.program = .scope fields body next →
      ((∃ field ∈ fields, Correlation.isFit field = false) →
        ∃ f, Correlation.refusal fields = some f ∧ s.ComesTo i 1 { t with program := .raise f }) ∧
      ((∀ field ∈ fields, Correlation.isFit field = true) → ∃ n, s.ComesTo i n
        { t with program := (Frame.scope fields t.context next).resume body.fault? }) := by
  intro s
  have hs : s.Sound (size + 1) := sound_run (sound_start programs size) turns
  refine ⟨⟨hs.order, ?_, hs.bounded, fun turn => hs.full_of_dropped (does_step s turn)⟩, ?_, ?_, ?_⟩
  · have hfates := Emission.length_eq s.emitted
    rw [← hs.order, ← hs.dropped, List.length_append] at hfates
    exact hfates
  · intro m hm
    have howned := hs.owned m hm
    have hlength : s.threads.length = programs.length :=
      (length_run _ turns).trans (List.length_map _)
    rw [hlength] at howned
    obtain ⟨hnodup, hlookup⟩ := hs.stamped m hm
    exact ⟨howned, fun copy hcopy => Emission.carries_of_copy hnodup hlookup hcopy⟩
  · intro i p hp
    refine ⟨⟨_, logCallsOf_start (size + 1) hp turns⟩, ?_⟩
    obtain ⟨n, hn⟩ := logCallsOf_eventually (size + 1) hp
    refine ⟨n, fun more hmore => ?_⟩
    rw [← run_append]
    apply hn
    rw [List.count_append]
    omega
  · intro i t fields body next hi hprogram
    obtain ⟨c, p, frames⟩ := t
    obtain rfl : p = .scope fields body next := hprogram
    constructor
    · rintro ⟨field, hfield, hunfit⟩
      cases hrefused : Correlation.refusal fields with
      | none =>
        rw [Correlation.refusal_eq_none_iff.mp hrefused field hfield] at hunfit
        cases hunfit
      | some f =>
        have hcomes := comesTo_step hi
        rw [Thread.step_of_refusal hrefused] at hcomes
        exact ⟨f, rfl, hcomes⟩
    · intro hfit
      exact comesTo_of_leads hi
        (Thread.leads_resume (Correlation.refusal_eq_none_iff.mpr hfit) c body next frames)

/-- Outside all scopes a record keeps the fields that its log call gave it, and a record whose text
cannot be made is neither taken nor queued nor dropped. -/
theorem stray_field_and_faulty_text :
    (let r : Record := { message := "m", correlation := some (.obj [("a", .str "b")]) }
      let s := (start [.emit r .done] 1).run [.thread 0]
      s.queue.waiting.map Record.correlationMembers = [[("a", .str "b")]] ∧
        s.emitted.map (·.scopes) = [[]] ∧ Correlation.inForce [] "a" = none) ∧
    let r : Record := { message := "%d", args := [.str "x"] }
    let s := (start [.emit r .done] 1).run [.thread 0]
    s.emitted.length = 1 ∧ s.taken.length + s.queue.waiting.length + s.queue.dropped = 0 :=
  ⟨⟨rfl, rfl, rfl⟩, rfl, rfl⟩

end System

end Conform.Log
