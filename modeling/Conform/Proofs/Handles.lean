import Conform.Proofs.Sessions

/-!
Handles over any calls. A setup that is not the active one has ended, ended setups stay as they
are, and ending one again changes nothing but, where it is still the active one, that it is
forgotten. Main statement: at most one setup is in force, it is the active one, and the loggers
that have a queue are just its own.
-/
namespace Conform.Log

namespace Session

variable {s : Session} {n k : Nat} {h : Handle}

/-- Only the active setup can be in force. -/
theorem Sound.ended_of_ne (hs : s.Sound) (hactive : s.active ≠ some k)
    (hk : s.handles[k]? = some h) : h.isShutdown = true := by
  by_contra hlive
  rw [Bool.not_eq_true] at hlive
  exact hactive (hs.live k h hk hlive).1

theorem Sound.close_of_ne (hs : s.Sound) (hactive : s.active ≠ some k) : s.close k = s := by
  cases hk : s.handles[k]? with
  | none => exact close_of_none hk
  | some h => exact close_of_shutdown hk (hs.ended_of_ne hactive hk)

theorem shutdown_some (hs : s.Sound) (n : Nat) : s.shutdown (some n) =
    { s.close n with active := if s.active = some n then none else s.active } := by
  have hclosed := active_close s n hs
  have hresolved : (some n <|> s.active) = some n := rfl
  simp only [shutdown, hresolved, hclosed]
  split
  · rfl
  · rw [← hclosed]

/-- What is left of the setup of a handle after it has been ended. -/
theorem Sound.ended_close (hs : s.Sound) (hn : (s.close n).handles[n]? = some h) :
    h.isShutdown = true := by
  cases hold : s.handles[n]? with
  | none =>
    rw [close_of_none hold, hold] at hn
    cases hn
  | some h' =>
    cases hended : h'.isShutdown with
    | true =>
      rw [close_of_shutdown hold hended, hold] at hn
      rw [← Option.some.inj hn]
      exact hended
    | false =>
      rw [close_of_live hs hold hended] at hn
      exact quiet_ended hs hold hended h (List.mem_of_getElem? hn)

theorem Sound.close_close (hs : s.Sound) (n : Nat) : (s.close n).close n = s.close n := by
  cases hn : (s.close n).handles[n]? with
  | none => exact close_of_none hn
  | some h => exact close_of_shutdown hn (hs.ended_close hn)

/-- Ending a setup again forgets it, if it is still the active one, and does no more. -/
theorem shutdown_of_ended (hs : s.Sound) (hn : s.handles[n]? = some h)
    (hended : h.isShutdown = true) : s.shutdown (some n) =
      { s with active := if s.active = some n then none else s.active } := by
  rw [shutdown_some hs, close_of_shutdown hn hended]

/-- Closing never touches a handle that has ended. -/
theorem close_keeps_ended (hs : s.Sound) (hn : s.handles[n]? = some h)
    (hended : h.isShutdown = true) (k : Nat) : (s.close k).handles[n]? = some h := by
  cases hk : s.handles[k]? with
  | none => rwa [close_of_none hk]
  | some h' =>
    cases hlive : h'.isShutdown with
    | true => rwa [close_of_shutdown hk hlive]
    | false =>
      -- the handle that is closed is in force, so it is another one
      have hne : k ≠ n := by
        rintro rfl
        obtain rfl := Option.some.inj (hn.symm.trans hk)
        rw [hended] at hlive
        cases hlive
      rw [close_of_live hs hk hlive, ended, List.getElem?_set_ne hne]
      exact hn

theorem handles_shutdown (s : Session) (handle : Option Nat) :
    (s.shutdown handle).handles = s.handles ∨
      ∃ n, (s.shutdown handle).handles = (s.close n).handles := by
  cases hresolved : handle <|> s.active with
  | none =>
    left
    simp only [shutdown, hresolved]
  | some n =>
    right
    refine ⟨n, ?_⟩
    simp only [shutdown, hresolved]
    split <;> rfl

theorem shutdown_keeps_ended (hs : s.Sound) (hn : s.handles[n]? = some h)
    (hended : h.isShutdown = true) (handle : Option Nat) :
    (s.shutdown handle).handles[n]? = some h := by
  rcases handles_shutdown s handle with heq | ⟨k, heq⟩
  · rwa [heq]
  · rw [heq]
    exact close_keeps_ended hs hn hended k

theorem handles_install (s : Session) (h : Handle) : (s.install h).handles = s.handles ++ [h] := by
  unfold install
  cases h.file with
  | none => rfl
  | some f =>
    have hfile := (s.sameSetups_append f []).handles
    simp only [modifyLogger, hfile]

theorem setup_keeps_ended (hs : s.Sound) (hn : s.handles[n]? = some h)
    (hended : h.isShutdown = true) (c : Setup) : (s.setup c).1.handles[n]? = some h := by
  have hretired : s.retire.handles[n]? = some h := shutdown_keeps_ended hs hn hended none
  unfold setup
  split
  · exact hretired
  · have hlt := (List.getElem?_eq_some_iff.mp hretired).1
    rw [handles_install, List.getElem?_append_left hlt]
    exact hretired

/-- A handle that has ended stays as it is, whatever is called. -/
theorem step_keeps_ended (hs : s.Sound) (hn : s.handles[n]? = some h)
    (hended : h.isShutdown = true) (c : Call) : (s.step c).handles[n]? = some h := by
  cases c with
  | setup c => exact setup_keeps_ended hs hn hended c
  | shutdown handle => exact shutdown_keeps_ended hs hn hended handle
  | close k => exact close_keeps_ended hs hn hended k
  | enter fields =>
    rw [step]
    split
    · rename_i s' h
      obtain ⟨c, -, hc⟩ := Answer.do_ok.mp h
      obtain rfl := Except.ok.inj hc
      exact hn
    · exact hn
  | leave => exact hn
  | emit r =>
    rw [step, (sameSetups_emit hs r).handles]
    exact hn
  | validate id v value =>
    rw [step]
    exact (sameSetups_emitNotes hs id (v.validate value).1).handles ▸ hn

theorem run_keeps_ended (hs : s.Sound) (hn : s.handles[n]? = some h)
    (hended : h.isShutdown = true) (calls : List Call) : (s.run calls).handles[n]? = some h := by
  induction calls generalizing s with
  | nil => exact hn
  | cons c calls ih => exact ih (sound_step hs c) (step_keeps_ended hs hn hended c)

/-- The loggers with a queue are those of the setups in force. -/
theorem Sound.has_queue_iff (hs : s.Sound) (name : String) :
    (∃ n, Outlet.queue n ∈ (s.loggers.get name).outlets) ↔
      ∃ (n : Nat) (h : Handle), s.handles[n]? = some h ∧ h.isShutdown = false ∧ h.logger = name := by
  constructor
  · rintro ⟨n, hmem⟩
    exact ⟨n, hs.outlets name n hmem⟩
  · rintro ⟨n, h, hn, hlive, rfl⟩
    refine ⟨n, ?_⟩
    rw [(hs.live n h hn hlive).2]
    exact List.mem_singleton.mpr rfl

/-- At most one setup is in force, after any calls. It is the active one, and the loggers with a
queue are just its own. Ending a setup that is not the active one changes nothing, so it leaves the
active one as it is. A setup that has ended stays so, whatever is called later: ending it by its
handle changes nothing, and ending it as one of the session at most forgets it. -/
theorem one_setup_live (calls : List Call) :
    let s := ({} : Session).run calls
    (∀ (m n : Nat) (h h' : Handle), s.handles[m]? = some h → s.handles[n]? = some h' →
      h.isShutdown = false → h'.isShutdown = false → m = n) ∧
    (∀ (n : Nat) (h : Handle), s.handles[n]? = some h → h.isShutdown = false →
      s.active = some n) ∧
    (∀ n k, s.active = some n → k ≠ n → s.close k = s ∧ s.shutdown (some k) = s) ∧
    (∀ n, (s.close n).close n = s.close n ∧
      (s.shutdown (some n)).close n = s.shutdown (some n) ∧
      (s.shutdown (some n)).shutdown (some n) = s.shutdown (some n)) ∧
    (∀ (n : Nat) (h : Handle), s.handles[n]? = some h → h.isShutdown = true →
      s.close n = s ∧
      s.shutdown (some n) = { s with active := if s.active = some n then none else s.active } ∧
      ∀ more, (s.run more).handles[n]? = some h) ∧
    ∀ name, (∃ n, Outlet.queue n ∈ (s.loggers.get name).outlets) ↔
      ∃ (n : Nat) (h : Handle), s.handles[n]? = some h ∧ h.isShutdown = false ∧ h.logger = name := by
  intro s
  have hs : s.Sound := sound_run sound_initial calls
  have hactive (n : Nat) (h : Handle) (hn : s.handles[n]? = some h)
      (hlive : h.isShutdown = false) : s.active = some n := (hs.live n h hn hlive).1
  refine ⟨?_, hactive, ?_, ?_, ?_, hs.has_queue_iff⟩
  · intro m n h h' hm hn hlive hlive'
    have hsame := (hactive m h hm hlive).symm.trans (hactive n h' hn hlive')
    exact Option.some.inj hsame
  · intro n k hn hne
    have hother : s.active ≠ some k := fun hk => hne (Option.some.inj (hk.symm.trans hn))
    have hclose := hs.close_of_ne hother
    refine ⟨hclose, ?_⟩
    rw [shutdown_some hs, hclose, if_neg hother]
  · intro n
    have hshut := sound_shutdown hs (some n)
    have hclose : (s.shutdown (some n)).close n = s.shutdown (some n) := by
      cases hn : (s.shutdown (some n)).handles[n]? with
      | none => exact close_of_none hn
      | some h =>
        refine close_of_shutdown hn ?_
        rw [shutdown_some hs] at hn
        exact hs.ended_close hn
    refine ⟨hs.close_close n, hclose, ?_⟩
    -- once it is forgotten there is nothing left to forget
    have hforgotten : (s.shutdown (some n)).active ≠ some n := by
      rw [shutdown_some hs]
      simp only
      split
      · exact fun h => nomatch h
      · assumption
    rw [shutdown_some hshut, hclose, if_neg hforgotten]
  · intro n h hn hended
    exact ⟨close_of_shutdown hn hended, shutdown_of_ended hs hn hended,
      run_keeps_ended hs hn hended⟩

end Session

end Conform.Log
