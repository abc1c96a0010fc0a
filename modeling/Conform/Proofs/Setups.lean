import Conform.Proofs.Sessions

/-!
A setup that is refused. It is looked at only after the active setup has been ended, so that it
replaces nothing and ends what was there all the same; where no setup was active it leaves the
session as it was.
-/
namespace Conform.Log

namespace Session

variable {s : Session} {n : Nat} {h : Handle} {r : Record} {c : Setup} {f : Fault}

/-- What is logged on the logger of a handle comes to what the handle writes to: a record that is
let through is written there in the form of the handle, with the correlation fields in force. -/
def Delivers (s : Session) (h : Handle) : Prop :=
  ∀ (r p : Record) (line : String), r.logger = h.logger →
    s.loggers.isEnabled r.logger r.level = true → clash r = none → h.level ≤ r.level →
    r.prepared s.correlation = .ok p → h.format.line p = .ok line →
    s.emit r = (s.writeLine h line, .ok ())

/-- Nothing that is logged is written, but for the bare text of warnings on the error stream. -/
def Deaf (s : Session) : Prop := ∀ r, (s.emit r).1 = s ∨ (s.emit r).1 = s.lastResort r

/-- A setup in force gets what is logged on its logger. -/
theorem delivers_of_live (hs : s.Sound) (hn : s.handles[n]? = some h)
    (hlive : h.isShutdown = false) : s.Delivers h := by
  intro r p line hlogger henabled hclash hlevel hp hline
  obtain ⟨-, hget⟩ := hs.live n h hn hlive
  have houtlets : s.loggers.outletsOf r.logger = [.queue n] := by
    rw [hlogger, Loggers.outletsOf_of_not_propagates (by rw [hget]), hget]
  have hdeliver : s.deliver r (.queue n) = s.writeLine h line := by
    rw [deliver, drain_offer hs hn hlevel hp, write_eq s hline]
  simp only [emit, if_pos henabled, hclash, houtlets, List.foldl_cons, List.foldl_nil, hdeliver]

theorem deaf_of_quiet (hs : s.Sound) (hquiet : s.Quiet) : s.Deaf := by
  intro r
  have hsilent (outlets : List Outlet) (h : ∀ o ∈ outlets, o = .silent) :
      outlets.foldl (fun s o => s.deliver r o) s = s := by
    induction outlets with
    | nil => rfl
    | cons o outlets ih =>
      rw [List.foldl_cons, h o List.mem_cons_self]
      exact ih fun o' ho' => h o' (List.mem_cons_of_mem _ ho')
  have hnone : ∀ o ∈ s.loggers.outletsOf r.logger, o = .silent := by
    intro o ho
    obtain ⟨above, habove⟩ := Loggers.exists_of_mem_outletsOf ho
    cases o with
    | silent => rfl
    | queue k => exact absurd habove (hs.not_queue hquiet above k)
  unfold emit
  split
  · split
    · exact .inl rfl
    · split
      · exact .inr rfl
      · exact .inl (hsilent _ hnone)
  · exact .inl rfl

theorem files_lastResort (s : Session) (r : Record) : (s.lastResort r).files = s.files := by
  unfold lastResort
  split <;> rfl

theorem files_emit_of_quiet (hs : s.Sound) (hquiet : s.Quiet) (r : Record) :
    (s.emit r).1.files = s.files := by
  rcases deaf_of_quiet hs hquiet r with h | h
  · rw [h]
  · rw [h, files_lastResort]

theorem Quiet.of_sameSetups {s' : Session} (h : s.SameSetups s') (hquiet : s.Quiet) : s'.Quiet := by
  rw [Quiet, h.handles]
  exact hquiet

theorem files_emitNotes_of_quiet (hs : s.Sound) (hquiet : s.Quiet) (id : String)
    (notes : List Note) : (s.emitNotes id notes).files = s.files := by
  have hall (t : Session) (ht : t.Sound) (hquiet : t.Quiet) :
      (notes.foldl (fun s n => (s.emit (ofNote n)).1) t).files = t.files := by
    induction notes generalizing t with
    | nil => rfl
    | cons note notes ih =>
      have hone := sameSetups_emit ht (ofNote note)
      exact (ih _ (hone.sound ht) (hquiet.of_sameSetups hone)).trans
        (files_emit_of_quiet ht hquiet (ofNote note))
  have hinside := SameSetups.of_scopes s (s.correlation.put "validation_id" id :: s.scopes)
  exact hall _ (hinside.sound hs) (hquiet.of_sameSetups hinside)

theorem close_of_quiet (hquiet : s.Quiet) (n : Nat) : s.close n = s := by
  cases hn : s.handles[n]? with
  | none => exact close_of_none hn
  | some h => exact close_of_shutdown hn (hquiet h (List.mem_of_getElem? hn))

theorem shutdown_of_quiet (hquiet : s.Quiet) (handle : Option Nat) :
    s.shutdown handle = s ∨ s.shutdown handle = { s with active := none } := by
  unfold shutdown
  split
  · exact .inl rfl
  · rename_i n _
    simp only [close_of_quiet hquiet n]
    split
    · exact .inr rfl
    · exact .inl rfl

theorem retire_of_quiet (hquiet : s.Quiet) : s.retire = { s with active := none } := by
  rcases shutdown_of_quiet hquiet none with h | h <;> rw [retire, h]

theorem setup_of_refused (s : Session) (hc : c.check = .error f) :
    s.setup c = (s.retire, .error f) := by
  simp only [setup, hc]

/-- No call but a setup that is fit. -/
def Call.InstallsNothing : Call → Prop
  | .setup c => ∃ f, c.check = .error f
  | _ => True

/-- Where no setup is in force, none is after a call that installs none, and no file changes. -/
theorem quiet_step (hs : s.Sound) (hquiet : s.Quiet) {call : Call} (hcall : call.InstallsNothing) :
    (s.step call).Quiet ∧ (s.step call).files = s.files := by
  cases call with
  | setup c =>
    obtain ⟨f, hc⟩ := hcall
    rw [step, setup_of_refused s hc, retire_of_quiet hquiet]
    exact ⟨hquiet, rfl⟩
  | shutdown handle =>
    rw [step]
    rcases shutdown_of_quiet hquiet handle with h | h <;> rw [h] <;> exact ⟨hquiet, rfl⟩
  | close handle =>
    rw [step, close_of_quiet hquiet handle]
    exact ⟨hquiet, rfl⟩
  | enter fields =>
    rw [step]
    split
    · rename_i s' h
      obtain ⟨c, -, hc⟩ := Answer.do_ok.mp h
      obtain rfl := Except.ok.inj hc
      exact ⟨hquiet, rfl⟩
    · exact ⟨hquiet, rfl⟩
  | leave => exact ⟨hquiet, rfl⟩
  | emit r =>
    exact ⟨hquiet.of_sameSetups (sameSetups_emit hs r), files_emit_of_quiet hs hquiet r⟩
  | validate id v value =>
    exact ⟨hquiet.of_sameSetups (sameSetups_emitNotes hs id _),
      files_emitNotes_of_quiet hs hquiet id _⟩

theorem quiet_run (hs : s.Sound) (hquiet : s.Quiet) {calls : List Call}
    (hcalls : ∀ call ∈ calls, call.InstallsNothing) :
    (s.run calls).Sound ∧ (s.run calls).Quiet ∧ (s.run calls).files = s.files := by
  induction calls generalizing s with
  | nil => exact ⟨hs, hquiet, rfl⟩
  | cons call calls ih =>
    obtain ⟨hone, hfiles⟩ := quiet_step hs hquiet (hcalls call List.mem_cons_self)
    obtain ⟨hsound, hall, hrest⟩ :=
      ih (sound_step hs call) hone fun c hc => hcalls c (List.mem_cons_of_mem _ hc)
    exact ⟨hsound, hall, hrest.trans hfiles⟩

/-- The session after its active setup, if it has one, has been ended. -/
theorem retire_eq (hs : s.Sound) (hactive : s.active = some n) (hn : s.handles[n]? = some h) :
    s.retire = { (if h.isShutdown then s else s.ended n h) with active := none } := by
  rw [retire_of_some hs hactive]
  cases hended : h.isShutdown with
  | true => rw [close_of_shutdown hn hended, if_pos rfl]
  | false => rw [close_of_live hs hn hended, if_neg Bool.false_ne_true]

theorem files_retire (hs : s.Sound) : s.retire.files = s.files := by
  cases hactive : s.active with
  | none => rw [retire_of_none hactive]
  | some n =>
    have hn := List.getElem?_eq_getElem (hs.active n hactive)
    rw [retire_eq hs hactive hn]
    split <;> rfl

/-- What a refused setup comes to. It is answered with what is wrong with it. Without an active
setup the session is as before. The active one, to whose file and error stream records went, is
ended and forgotten: it stays the active one in no case. From then on, until a fit setup is made,
no record comes to any file. -/
theorem refused_setup_ends_active (hs : s.Reached) (hc : c.check = .error f) :
    (s.setup c).2 = .error f ∧
    ((s.setup c).1.active = s.active ↔ s.active = none) ∧
    (s.active = none → (s.setup c).1 = s) ∧
    (∀ n, s.active = some n → ∃ h, s.handles[n]? = some h ∧
      (h.isShutdown = false → s.Delivers h) ∧
      (s.setup c).1 = { (if h.isShutdown then s else s.ended n h) with active := none }) ∧
    ∀ calls : List Call, (∀ call ∈ calls, call.InstallsNothing) →
      ((s.setup c).1.run calls).files = s.files ∧ ((s.setup c).1.run calls).Deaf := by
  have hsound := hs.sound
  obtain ⟨hretired, hquiet, hnone⟩ := sound_retire hsound
  rw [setup_of_refused s hc]
  refine ⟨rfl, ?_, retire_of_none, ?_, ?_⟩
  · rw [hnone]
    exact eq_comm
  · intro n hactive
    have hn := List.getElem?_eq_getElem (hsound.active n hactive)
    exact ⟨_, hn, delivers_of_live hsound hn, retire_eq hsound hactive hn⟩
  · intro calls hcalls
    obtain ⟨hlast, hstill, hfiles⟩ := quiet_run hretired hquiet hcalls
    exact ⟨hfiles.trans (files_retire hsound), deaf_of_quiet hlast hstill⟩

theorem refused_setup_ends_active_of_size_zero :
    (({} : Session).run [.setup { level := .int 20, file := some "log" }]).Reached ∧
    ({ level := .int 20, queueSize := .int 0 } : Setup).check =
      .error (.setting "queue_size" "must be > 0") ∧
    ((({} : Session).run [.setup { level := .int 20, file := some "log" }]).setup
      { level := .int 20, queueSize := .int 0 }).2 =
        .error (.setting "queue_size" "must be > 0") := by
  have hreached : (({} : Session).run [.setup { level := .int 20, file := some "log" }]).Reached :=
    ⟨_, rfl⟩
  have hrefused : ({ level := .int 20, queueSize := .int 0 } : Setup).check =
      .error (.setting "queue_size" "must be > 0") := rfl
  exact ⟨hreached, hrefused, (refused_setup_ends_active hreached hrefused).1⟩

/-- A queue of no size is refused, and the setup whose file records went to is gone. -/
theorem size_zero_silences :
    let s := ({} : Session).run [.setup { level := .int 20, file := some "log" }]
    let c : Setup := { level := .int 20, queueSize := .int 0 }
    c.check = .error (.setting "queue_size" "must be > 0") ∧ s.active = some 0 ∧
    (∃ h, s.handles[0]? = some h ∧ h.isShutdown = false ∧ h.file = some "log" ∧ s.Delivers h) ∧
    (s.setup c).1.active = none ∧
    ((s.setup c).1.handles[0]?.map (·.isShutdown)) = some true ∧
    ∀ r, ((s.setup c).1.emit r).1.files = [("log", [])] := by
  intro s c
  have hsound : s.Sound := sound_run sound_initial _
  obtain ⟨hretired, hquiet, -⟩ := sound_retire hsound
  have hhandle : s.handles[0]? =
      some (newHandle { level := .int 20, file := some "log" } 20 .json 4096) := rfl
  refine ⟨rfl, rfl, ⟨_, hhandle, rfl, rfl, delivers_of_live hsound hhandle rfl⟩, rfl, rfl,
    fun r => ?_⟩
  have hfiles : s.retire.files = [("log", [])] := rfl
  exact (files_emit_of_quiet hretired hquiet r).trans hfiles

end Session

end Conform.Log
