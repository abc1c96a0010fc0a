import Conform.Log.Session
import Conform.Proofs.Answer
import Conform.Proofs.Rearranged

/-!
Logging sessions over any calls. Between calls nothing waits in a queue, and a setup that has not
ended is the active one: its logger passes nothing on and has the queue of that setup alone, and no
other logger has a queue. What is emitted changes files and the error stream only.
-/
namespace Conform.Log

namespace Loggers

theorem get_set (ls : Loggers) (name name' : String) (l : Logger) :
    (ls.set name l).get name' = if name' = name then l else ls.get name' := by
  unfold get set
  by_cases h : name' = name
  · rw [if_pos h, List.lookup_cons, beq_iff_eq.mpr h]
    rfl
  · rw [if_neg h, List.lookup_cons, beq_eq_false_iff_ne.mpr h]
    exact congrArg (·.getD {}) (Members.lookup_filter_of_ne h ls)

theorem reached_cons_of_not_propagates {ls : Loggers} {name : String} (names : List String)
    (h : (ls.get name).propagates = false) : ls.reached (name :: names) = [ls.get name] := by
  simp [reached, h]

theorem exists_lineage (name : String) : ∃ names, lineage name = name :: names := by
  unfold lineage
  split
  · rename_i h
    exact ⟨[], by rw [h]⟩
  · exact ⟨_, rfl⟩

/-- A logger that passes nothing on keeps what is logged to what is attached to itself. -/
theorem outletsOf_of_not_propagates {ls : Loggers} {name : String}
    (h : (ls.get name).propagates = false) : ls.outletsOf name = (ls.get name).outlets := by
  obtain ⟨names, hnames⟩ := exists_lineage name
  rw [outletsOf, hnames, reached_cons_of_not_propagates names h, List.flatMap_singleton]

theorem exists_of_mem_reached {ls : Loggers} {names : List String} {l : Logger}
    (h : l ∈ ls.reached names) : ∃ name, l = ls.get name := by
  induction names with
  | nil => cases h
  | cons name names ih =>
    unfold reached at h
    split at h
    · rcases List.mem_cons.mp h with rfl | h
      · exact ⟨name, rfl⟩
      · exact ih h
    · exact ⟨name, List.mem_singleton.mp h⟩

theorem exists_of_mem_outletsOf {ls : Loggers} {name : String} {o : Outlet}
    (h : o ∈ ls.outletsOf name) : ∃ above, o ∈ (ls.get above).outlets := by
  obtain ⟨l, hl, ho⟩ := List.mem_flatMap.mp h
  obtain ⟨above, rfl⟩ := exists_of_mem_reached hl
  exact ⟨above, ho⟩

end Loggers

namespace Session

/-- What is done in a session. -/
inductive Call where
  | setup (c : Setup)
  | shutdown (handle : Option Nat)
  /-- Ends a setup by its handle, which leaves it the active one if it is. -/
  | close (handle : Nat)
  | enter (fields : Members)
  | leave
  | emit (r : Record)
  | validate (id : String) (v : Validator) (value : Value)

/-- The session after a call. A scope that is refused is not entered. -/
def step (s : Session) : Call → Session
  | .setup c => (s.setup c).1
  | .shutdown handle => s.shutdown handle
  | .close handle => s.close handle
  | .enter fields =>
    match s.enter fields with
    | .ok s' => s'
    | .error _ => s
  | .leave => s.leave
  | .emit r => (s.emit r).1
  | .validate id v value => (s.validate id v value).1

def run (s : Session) (calls : List Call) : Session := calls.foldl step s

/-- A session that calls lead to from the beginning. -/
def Reached (s : Session) : Prop := ∃ calls, ({} : Session).run calls = s

/-- What holds of a session between calls. -/
structure Sound (s : Session) : Prop where
  waiting : ∀ h ∈ s.handles, h.queue.waiting = [] ∧ h.queue.isFull = false
  live : ∀ n h, s.handles[n]? = some h → h.isShutdown = false →
    s.active = some n ∧ s.loggers.get h.logger = ⟨h.level, false, [.queue n]⟩
  outlets : ∀ name n, Outlet.queue n ∈ (s.loggers.get name).outlets →
    ∃ h, s.handles[n]? = some h ∧ h.isShutdown = false ∧ h.logger = name
  active : ∀ n, s.active = some n → n < s.handles.length

variable {s s' : Session} {n : Nat} {h : Handle} {r : Record} {c : Setup}

/-- Two sessions that differ in what was written, and in their scopes, at most. -/
structure SameSetups (s s' : Session) : Prop where
  loggers : s'.loggers = s.loggers
  handles : s'.handles = s.handles
  active : s'.active = s.active

theorem SameSetups.refl (s : Session) : s.SameSetups s := ⟨rfl, rfl, rfl⟩

theorem SameSetups.of_scopes (s : Session) (scopes : List Correlation) :
    s.SameSetups { s with scopes := scopes } := ⟨rfl, rfl, rfl⟩

theorem SameSetups.trans {s'' : Session} (h : s.SameSetups s') (h' : s'.SameSetups s'') :
    s.SameSetups s'' :=
  ⟨h'.loggers.trans h.loggers, h'.handles.trans h.handles, h'.active.trans h.active⟩

theorem SameSetups.sound (h : s.SameSetups s') (hs : s.Sound) : s'.Sound where
  waiting := h.handles ▸ hs.waiting
  live := by
    rw [h.handles, h.active, h.loggers]
    exact hs.live
  outlets := by
    rw [h.handles, h.loggers]
    exact hs.outlets
  active := by
    rw [h.handles, h.active]
    exact hs.active

/-- What a record comes to when it is written to the sinks of a handle: a line at the end of its
file, and one on the error stream, each as far as the handle has them. -/
def writeLine (s : Session) (h : Handle) (line : String) : Session :=
  let s := match h.file with
    | some f => s.append f [line]
    | none => s
  if h.toStderr then { s with stderr := s.stderr ++ [line] } else s

theorem write_eq {line : String} (s : Session) (hline : h.format.line r = .ok line) :
    s.write h r = s.writeLine h line := by
  rw [write, hline]
  rfl

theorem sameSetups_append (s : Session) (file : String) (lines : List String) :
    s.SameSetups (s.append file lines) := by
  unfold append
  split <;> exact ⟨rfl, rfl, rfl⟩

theorem sameSetups_writeLine (s : Session) (h : Handle) (line : String) :
    s.SameSetups (s.writeLine h line) := by
  unfold writeLine
  cases h.file with
  | none => cases h.toStderr <;> exact ⟨rfl, rfl, rfl⟩
  | some f =>
    have hfile := s.sameSetups_append f [line]
    cases h.toStderr with
    | true => exact hfile.trans ⟨rfl, rfl, rfl⟩
    | false => exact hfile

theorem sameSetups_write (s : Session) (h : Handle) (r : Record) :
    s.SameSetups (s.write h r) := by
  cases hline : h.format.line r with
  | error f =>
    rw [write, hline]
    exact SameSetups.refl s
  | ok line =>
    rw [write_eq s hline]
    exact s.sameSetups_writeLine h line

theorem modifyHandle_of_eq (hn : s.handles[n]? = some h) {f : Handle → Handle} (hf : f h = h) :
    s.modifyHandle n f = s := by
  have hsame : s.handles.modify n f = s.handles := by
    apply List.ext_getElem?
    intro k
    rw [List.getElem?_modify]
    by_cases hk : n = k
    · subst hk
      simp [hn, hf]
    · simp [hk]
  rw [modifyHandle, hsame]

/-- Where nothing waits there is nothing to write. -/
theorem drain_eq (hs : s.Sound) (n : Nat) : s.drain n = s := by
  unfold drain
  split
  · rfl
  · rename_i h hn
    have hwaiting := (hs.waiting h (List.mem_of_getElem? hn)).1
    have hsame : ({ h with queue := { h.queue with waiting := [] } } : Handle) = h := by
      obtain ⟨logger, level, format, file, toStderr, ⟨capacity, waiting, dropped⟩, ended⟩ := h
      obtain rfl : waiting = [] := hwaiting
      rfl
    rw [hwaiting, modifyHandle_of_eq hn hsame]
    rfl

/-- A record that finds room in a queue is written at once. -/
theorem drain_offer (hs : s.Sound) (hn : s.handles[n]? = some h) {p : Record}
    (hlevel : h.level ≤ r.level) (hp : r.prepared s.correlation = .ok p) :
    (s.offer n r).drain n = s.write h p := by
  obtain ⟨hwaiting, hroom⟩ := hs.waiting h (List.mem_of_getElem? hn)
  have hoffer : h.queue.offer p = { h.queue with waiting := [p] } := by
    rw [Queue.offer, hroom, if_neg Bool.false_ne_true, hwaiting]
    rfl
  have hafter : s.offer n r =
      s.modifyHandle n fun h => { h with queue := h.queue.offer p } := by
    simp only [offer, hn, if_pos hlevel, hp]
  have hthere : (s.modifyHandle n fun h => { h with queue := h.queue.offer p }).handles[n]? =
      some { h with queue := h.queue.offer p } := by
    rw [modifyHandle]
    simp [hn]
  rw [hafter, drain, hthere]
  simp only
  -- taking the record out again leaves the queue as it was
  have hback : (s.modifyHandle n fun h => { h with queue := h.queue.offer p }).modifyHandle n
      (fun h => { h with queue := { h.queue with waiting := [] } }) = s := by
    rw [modifyHandle, modifyHandle]
    simp only [List.modify_modify_eq]
    refine modifyHandle_of_eq hn ?_
    obtain ⟨logger, level, format, file, toStderr, queue, ended⟩ := h
    obtain ⟨capacity, waiting, dropped⟩ := queue
    obtain rfl : waiting = [] := hwaiting
    simp only [Function.comp]
    rw [hoffer]
  rw [hback, hoffer]
  rfl

theorem sameSetups_deliver (hs : s.Sound) (r : Record) (o : Outlet) :
    s.SameSetups (s.deliver r o) := by
  cases o with
  | silent => exact SameSetups.refl s
  | queue n =>
    have hdrain : s.drain n = s := drain_eq hs n
    cases hn : s.handles[n]? with
    | none =>
      have hoffer : s.offer n r = s := by simp only [offer, hn]
      rw [deliver, hoffer, hdrain]
      exact SameSetups.refl s
    | some h =>
      by_cases hlevel : h.level ≤ r.level
      · cases hp : r.prepared s.correlation with
        | ok p =>
          rw [deliver, drain_offer hs hn hlevel hp]
          exact s.sameSetups_write h p
        | error f =>
          have hoffer : s.offer n r = s := by simp only [offer, hn, if_pos hlevel, hp]
          rw [deliver, hoffer, hdrain]
          exact SameSetups.refl s
      · have hoffer : s.offer n r = s := by simp only [offer, hn, if_neg hlevel]
        rw [deliver, hoffer, hdrain]
        exact SameSetups.refl s

theorem sameSetups_deliverAll (hs : s.Sound) (r : Record) (outlets : List Outlet) :
    s.SameSetups (outlets.foldl (fun s o => s.deliver r o) s) := by
  induction outlets generalizing s with
  | nil => exact SameSetups.refl s
  | cons o outlets ih =>
    have hone := sameSetups_deliver hs r o
    exact hone.trans (ih (hone.sound hs))

theorem sameSetups_lastResort (s : Session) (r : Record) : s.SameSetups (s.lastResort r) := by
  unfold lastResort
  split
  · exact ⟨rfl, rfl, rfl⟩
  · exact SameSetups.refl s

theorem sameSetups_emit (hs : s.Sound) (r : Record) : s.SameSetups (s.emit r).1 := by
  unfold emit
  split
  · split
    · exact SameSetups.refl s
    · split
      · exact s.sameSetups_lastResort r
      · exact sameSetups_deliverAll hs r _
  · exact SameSetups.refl s

theorem sameSetups_emitNotes (hs : s.Sound) (id : String) (notes : List Note) :
    s.SameSetups (s.emitNotes id notes) := by
  have hall (t : Session) (ht : t.Sound) :
      t.SameSetups (notes.foldl (fun s n => (s.emit (ofNote n)).1) t) := by
    induction notes generalizing t with
    | nil => exact SameSetups.refl t
    | cons note notes ih =>
      have hone := sameSetups_emit ht (ofNote note)
      exact hone.trans (ih _ (hone.sound ht))
  have hinside := SameSetups.of_scopes s (s.correlation.put "validation_id" id :: s.scopes)
  have hnoted := hinside.trans (hall _ (hinside.sound hs))
  exact ⟨hnoted.loggers, hnoted.handles, hnoted.active⟩

/-- The session with the setup of a handle ended: it is marked as such, and nothing is attached to
its logger any more. -/
def ended (s : Session) (n : Nat) (h : Handle) : Session :=
  { s with
    loggers := s.loggers.set h.logger ⟨h.level, false, []⟩
    handles := s.handles.set n { h with isShutdown := true } }

theorem close_of_none (hn : s.handles[n]? = none) : s.close n = s := by
  simp only [close, hn]

theorem close_of_shutdown (hn : s.handles[n]? = some h) (hended : h.isShutdown = true) :
    s.close n = s := by
  simp only [close, hn, if_pos hended]

theorem close_of_live (hs : s.Sound) (hn : s.handles[n]? = some h)
    (hlive : h.isShutdown = false) : s.close n = s.ended n h := by
  obtain ⟨-, hlogger⟩ := hs.live n h hn hlive
  have hmodify : s.handles.modify n (fun h => { h with isShutdown := true }) =
      s.handles.set n { h with isShutdown := true } := by
    apply List.ext_getElem?
    intro k
    rw [List.getElem?_modify, List.getElem?_set]
    by_cases hk : n = k
    · subst hk
      obtain ⟨hlt, rfl⟩ := List.getElem?_eq_some_iff.mp hn
      simp [hlt]
    · simp [hk]
  simp only [close, hn, hlive, Bool.false_eq_true, ↓reduceIte, drain_eq hs, modifyLogger, hlogger,
    modifyHandle, hmodify]
  simp [ended]

theorem active_close (s : Session) (n : Nat) (hs : s.Sound) : (s.close n).active = s.active := by
  cases hn : s.handles[n]? with
  | none => rw [close_of_none hn]
  | some h =>
    cases hended : h.isShutdown with
    | true => rw [close_of_shutdown hn hended]
    | false =>
      rw [close_of_live hs hn hended]
      rfl

/-- No setup is in force. -/
def Quiet (s : Session) : Prop := ∀ h ∈ s.handles, h.isShutdown = true

theorem Sound.quiet_of_ended (hs : s.Sound)
    (hended : ∀ n h, s.active = some n → s.handles[n]? = some h → h.isShutdown = true) :
    s.Quiet := by
  intro h hh
  obtain ⟨n, hn⟩ := List.mem_iff_getElem?.mp hh
  by_contra hlive
  rw [Bool.not_eq_true] at hlive
  have hfalse := hended n h (hs.live n h hn hlive).1 hn
  rw [hlive] at hfalse
  cases hfalse

/-- In a session in which no setup is in force no logger has a queue. -/
theorem Sound.not_queue (hs : s.Sound) (hquiet : s.Quiet) (name : String) (n : Nat) :
    Outlet.queue n ∉ (s.loggers.get name).outlets := by
  intro hmem
  obtain ⟨h, hn, hlive, -⟩ := hs.outlets name n hmem
  rw [hquiet h (List.mem_of_getElem? hn)] at hlive
  cases hlive

theorem Sound.inactive (hs : s.Sound) (hquiet : s.Quiet) : ({ s with active := none }).Sound where
  waiting := hs.waiting
  live n h hn hlive := by
    rw [hquiet h (List.mem_of_getElem? hn)] at hlive
    cases hlive
  outlets := hs.outlets
  active n hn := by cases hn

/-- Ending the one setup that is in force leaves none. -/
theorem quiet_ended (hs : s.Sound) (hn : s.handles[n]? = some h) (hlive : h.isShutdown = false) :
    (s.ended n h).Quiet := by
  intro h' hh'
  obtain ⟨k, hk⟩ := List.mem_iff_getElem?.mp hh'
  rw [ended, List.getElem?_set] at hk
  by_cases hkn : n = k
  · subst hkn
    have hlt := (List.getElem?_eq_some_iff.mp hn).1
    simp only [↓reduceIte, hlt] at hk
    rw [← Option.some.inj hk]
  · rw [if_neg hkn] at hk
    by_contra hother
    rw [Bool.not_eq_true] at hother
    have hboth := (hs.live n h hn hlive).1.symm.trans (hs.live k h' hk hother).1
    exact hkn (Option.some.inj hboth)

theorem sound_ended (hs : s.Sound) (hn : s.handles[n]? = some h) (hlive : h.isShutdown = false) :
    (s.ended n h).Sound where
  waiting h' hh' := by
    rcases List.mem_or_eq_of_mem_set hh' with hold | rfl
    · exact hs.waiting h' hold
    · exact hs.waiting h (List.mem_of_getElem? hn)
  live k h' hk hlive' := by
    rw [quiet_ended hs hn hlive h' (List.mem_of_getElem? hk)] at hlive'
    cases hlive'
  outlets name k hmem := by
    rw [ended, Loggers.get_set] at hmem
    split at hmem
    · cases hmem
    · rename_i hname
      -- the only queue was that of the setup that is ended
      obtain ⟨h', hk, hlive', hlogger⟩ := hs.outlets name k hmem
      have hboth := (hs.live n h hn hlive).1.symm.trans (hs.live k h' hk hlive').1
      obtain rfl := Option.some.inj hboth
      obtain rfl := Option.some.inj (hn.symm.trans hk)
      exact absurd hlogger.symm hname
  active k hk := by
    rw [ended, List.length_set]
    exact hs.active k hk

theorem sound_close (hs : s.Sound) (n : Nat) : (s.close n).Sound := by
  cases hn : s.handles[n]? with
  | none =>
    rw [close_of_none hn]
    exact hs
  | some h =>
    cases hended : h.isShutdown with
    | true =>
      rw [close_of_shutdown hn hended]
      exact hs
    | false =>
      rw [close_of_live hs hn hended]
      exact sound_ended hs hn hended

/-- After ending the active setup none is in force. -/
theorem quiet_close (hs : s.Sound) (hactive : s.active = some n) : (s.close n).Quiet := by
  cases hn : s.handles[n]? with
  | none =>
    have hlt := hs.active n hactive
    rw [List.getElem?_eq_getElem hlt] at hn
    cases hn
  | some h =>
    cases hended : h.isShutdown with
    | true =>
      rw [close_of_shutdown hn hended]
      refine hs.quiet_of_ended fun k h' hk hk' => ?_
      obtain rfl := Option.some.inj (hactive.symm.trans hk)
      rw [← Option.some.inj (hn.symm.trans hk')]
      exact hended
    | false =>
      rw [close_of_live hs hn hended]
      exact quiet_ended hs hn hended

theorem sound_shutdown (hs : s.Sound) (handle : Option Nat) : (s.shutdown handle).Sound := by
  unfold shutdown
  split
  · exact hs
  · rename_i n _
    simp only
    split
    · rename_i hactive
      rw [active_close s n hs] at hactive
      exact (sound_close hs n).inactive (quiet_close hs hactive)
    · exact sound_close hs n

/-- Ending the active setup, if there is one. -/
theorem retire_of_none (hactive : s.active = none) : s.retire = s := by
  obtain ⟨loggers, handles, active, scopes, files, stderr⟩ := s
  obtain rfl : active = none := hactive
  rfl

theorem retire_of_some (hs : s.Sound) (hactive : s.active = some n) :
    s.retire = { s.close n with active := none } := by
  have hshutdown : s.shutdown none = { s.close n with active := none } := by
    have hclosed := active_close s n hs
    simp [shutdown, hactive, hclosed]
  rw [retire, hshutdown]

theorem sound_retire (hs : s.Sound) : s.retire.Sound ∧ s.retire.Quiet ∧ s.retire.active = none := by
  cases hactive : s.active with
  | none =>
    rw [retire_of_none hactive]
    refine ⟨hs, hs.quiet_of_ended fun n h hn => ?_, hactive⟩
    rw [hactive] at hn
    cases hn
  | some n =>
    rw [retire_of_some hs hactive]
    have hquiet := quiet_close hs hactive
    exact ⟨(sound_close hs n).inactive hquiet, hquiet, rfl⟩

theorem sound_install (hs : s.Sound) (hquiet : s.Quiet) (hh : h.isShutdown = false)
    (hqueue : h.queue.waiting = [] ∧ h.queue.isFull = false) : (s.install h).Sound := by
  obtain ⟨t, ht, hinstall⟩ : ∃ t, s.SameSetups t ∧ s.install h = { t with
      loggers := t.loggers.set h.logger ⟨h.level, false, [.queue s.handles.length]⟩
      handles := t.handles ++ [h], active := some s.handles.length } := by
    cases hfile : h.file with
    | none =>
      refine ⟨s, SameSetups.refl s, ?_⟩
      simp only [install, hfile]
      rfl
    | some f =>
      refine ⟨s.append f [], s.sameSetups_append f [], ?_⟩
      simp only [install, hfile]
      rfl
  rw [hinstall, ht.handles, ht.loggers]
  -- the setup that is installed is the only one in force, so all queues are its own
  refine ⟨?_, ?_, ?_, ?_⟩
  · intro h' hh'
    rcases List.mem_append.mp hh' with hold | hnew
    · exact hs.waiting h' hold
    · rw [List.mem_singleton.mp hnew]
      exact hqueue
  · intro k h' hk hlive
    by_cases hlt : k < s.handles.length
    · simp only [List.getElem?_append_left hlt] at hk
      rw [hquiet h' (List.mem_of_getElem? hk)] at hlive
      cases hlive
    · have hbound := (List.getElem?_eq_some_iff.mp hk).1
      simp only [List.length_append, List.length_singleton] at hbound
      obtain rfl : k = s.handles.length := by omega
      simp only [List.getElem?_concat_length, Option.some.injEq] at hk
      subst hk
      exact ⟨rfl, by simp only [Loggers.get_set, ↓reduceIte]⟩
  · intro name k hmem
    simp only [Loggers.get_set] at hmem
    split at hmem
    · rename_i hname
      obtain rfl : k = s.handles.length := by simpa using hmem
      exact ⟨h, List.getElem?_concat_length, hh, hname.symm⟩
    · exact absurd hmem (hs.not_queue hquiet name k)
  · intro k hk
    obtain rfl := Option.some.inj hk
    simp

theorem queueSizeOf_pos {v : Value} {size : Int} (h : Setup.queueSizeOf v = .ok size) :
    0 < size := by
  unfold Setup.queueSizeOf at h
  split at h
  · split at h
    · cases h
    · obtain rfl := Except.ok.inj h
      omega
  · cases h

theorem newHandle_ready {level size : Int} {format : Format} (c : Setup) (hsize : 0 < size) :
    (newHandle c level format size).queue.waiting = [] ∧
      (newHandle c level format size).queue.isFull = false := by
  have hcapacity : 0 < size.toNat := by omega
  simp [newHandle, Queue.ofSize, Queue.isFull, hsize, Nat.ne_of_gt hcapacity]

theorem sound_setup (hs : s.Sound) (c : Setup) : (s.setup c).1.Sound := by
  obtain ⟨hretired, hquiet, -⟩ := sound_retire hs
  cases hc : c.check with
  | error f =>
    simp only [setup, hc]
    exact hretired
  | ok fit =>
    obtain ⟨level, format, size⟩ := fit
    have hsize : 0 < size := by
      unfold Setup.check at hc
      obtain ⟨_, -, hc⟩ := Answer.do_ok.mp hc
      obtain ⟨_, -, hc⟩ := Answer.do_ok.mp hc
      obtain ⟨size', hqueue, hc⟩ := Answer.do_ok.mp hc
      obtain ⟨rfl, rfl, rfl⟩ := Except.ok.inj hc
      exact queueSizeOf_pos hqueue
    simp only [setup, hc]
    exact sound_install hretired hquiet rfl (newHandle_ready c hsize)

theorem sound_step (hs : s.Sound) (c : Call) : (s.step c).Sound := by
  cases c with
  | setup c => exact sound_setup hs c
  | shutdown handle => exact sound_shutdown hs handle
  | close handle => exact sound_close hs handle
  | enter fields =>
    rw [step]
    split
    · rename_i s' h
      obtain ⟨c, -, hc⟩ := Answer.do_ok.mp h
      obtain rfl := Except.ok.inj hc
      exact (SameSetups.of_scopes s (c :: s.scopes)).sound hs
    · exact hs
  | leave => exact (SameSetups.of_scopes s (s.scopes.drop 1)).sound hs
  | emit r => exact (sameSetups_emit hs r).sound hs
  | validate id v value => exact (sameSetups_emitNotes hs id (v.validate value).1).sound hs

theorem sound_initial : ({} : Session).Sound where
  waiting h hh := by cases hh
  live n h hn := by cases hn
  outlets name n hmem := by
    -- at first only the root has anything attached, and that is no queue
    have hget : Loggers.initial.get name = ⟨warningLevel, true, [.silent]⟩ ∨
        Loggers.initial.get name = {} := by
      unfold Loggers.initial Loggers.get
      rw [List.lookup_cons]
      split
      · exact .inl rfl
      · exact .inr rfl
    rcases hget with hget | hget
    · rw [hget] at hmem
      simp at hmem
    · rw [hget] at hmem
      cases hmem
  active n hn := by cases hn

theorem sound_run (hs : s.Sound) (calls : List Call) : (s.run calls).Sound := by
  induction calls generalizing s with
  | nil => exact hs
  | cons c calls ih => exact ih (sound_step hs c)

theorem Reached.sound (h : s.Reached) : s.Sound := by
  obtain ⟨calls, rfl⟩ := h
  exact sound_run sound_initial calls

end Session

end Conform.Log
