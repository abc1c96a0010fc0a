import Conform.Proofs.Answered
import Conform.Proofs.Rearranged
import Mathlib.Data.Multiset.Bind

/-!
Two lists paired one to one, in whatever order. Outcomes match if, whenever both are verdicts, these
are the same and as much is found, up to wording and order. Steps in turn match if they can be
paired so that each matches the other one of its pair.
-/
namespace Conform

section
variable {α β γ δ : Type} {R : α → β → Prop} {P : γ → δ → Prop} {xs xs' : List α} {ys ys' : List β}

/-- The elements of two lists can be paired so that a relation holds of each pair. -/
def Paired (R : α → β → Prop) (xs : List α) (ys : List β) : Prop :=
  Multiset.Rel R (xs : Multiset α) (ys : Multiset β)

namespace Paired

theorem of_forall₂ (h : List.Forall₂ R xs ys) : Paired R xs ys := by
  induction h with
  | nil => exact .zero
  | cons hab _ ih => exact .cons hab ih

theorem of_perm {xs ys : List α} (h : xs.Perm ys) : Paired (· = ·) xs ys :=
  Multiset.rel_eq.mpr (Multiset.coe_eq_coe.mpr h)

theorem perm {xs ys : List α} (h : Paired (· = ·) xs ys) : xs.Perm ys :=
  Multiset.coe_eq_coe.mp (Multiset.rel_eq.mp h)

theorem mono {S : α → β → Prop} (h : Paired R xs ys)
    (hRS : ∀ a ∈ xs, ∀ b ∈ ys, R a b → S a b) : Paired S xs ys :=
  Multiset.Rel.mono h hRS

theorem append (h : Paired R xs ys) (h' : Paired R xs' ys') : Paired R (xs ++ xs') (ys ++ ys') :=
  Multiset.Rel.add h h'

theorem flatMap (h : Paired R xs ys) {f : α → List γ} {g : β → List δ}
    (hfg : ∀ a b, R a b → Paired P (f a) (g b)) : Paired P (xs.flatMap f) (ys.flatMap g) := by
  have hbind : Multiset.Rel P ((xs : Multiset α).bind fun a => f a)
      ((ys : Multiset β).bind fun b => g b) := Multiset.rel_bind hfg h
  rwa [Multiset.coe_bind, Multiset.coe_bind] at hbind

theorem map (h : Paired R xs ys) {f : α → γ} {g : β → δ} (hfg : ∀ a b, R a b → P (f a) (g b)) :
    Paired P (xs.map f) (ys.map g) :=
  Multiset.rel_map.mpr (Multiset.Rel.mono h fun a _ b _ => hfg a b)

theorem length_eq (h : Paired R xs ys) : xs.length = ys.length :=
  Multiset.card_eq_card_of_rel h

theorem isEmpty_eq (h : Paired R xs ys) : xs.isEmpty = ys.isEmpty := by
  rw [Bool.eq_iff_iff, List.isEmpty_iff_length_eq_zero, List.isEmpty_iff_length_eq_zero,
    h.length_eq]

end Paired
end

namespace Value.Rearranged.Matched

variable {ms ns : Members}

/-- The members of rearranged objects can be paired by their names. -/
theorem paired (h : Matched ms ns) :
    Paired (fun m n => m.1 = n.1 ∧ m.2.Rearranged n.2) ms ns := by
  obtain ⟨_, zs, hperm, hzs⟩ := Members.rearranged_iff_fills.mp (obj_obj.mpr h)
  have heq : (ns : Multiset (String × Value)) = zs := Multiset.coe_eq_coe.mpr hperm
  unfold Paired
  rw [heq]
  exact Paired.of_forall₂ hzs

end Value.Rearranged.Matched

namespace Outcome

/-- Whenever both are verdicts, they are the same, and found with them is the same, in any order. -/
def Matches (o p : Outcome) : Prop :=
  ∀ b c, o.verdict = .ok b → p.verdict = .ok c → b = c ∧ o.gists.Perm p.gists

theorem matches_of_error {o p : Outcome} {f : Fault} (h : o.verdict = .error f) : o.Matches p := by
  intro b c hb
  rw [h] at hb
  cases hb

theorem matches_of_error_right {o p : Outcome} {f : Fault} (h : p.verdict = .error f) :
    o.Matches p := by
  intro b c _ hc
  rw [h] at hc
  cases hc

theorem matches_of_eq {o p : Outcome} (hverdict : o.verdict = p.verdict)
    (hgists : o.gists = p.gists) : o.Matches p := by
  intro b c hb hc
  exact ⟨Except.ok.inj (hb.symm.trans (hverdict.trans hc)), .of_eq hgists⟩

/-- Answers that match one by one come to the same together. -/
theorem perm_of_paired {os ps : List Outcome} (h : Paired Matches os ps)
    (hos : ∀ o ∈ os, ∃ b, o.verdict = .ok b) (hps : ∀ p ∈ ps, ∃ b, p.verdict = .ok b) :
    os.all holds = ps.all holds ∧ (os.flatMap gists).Perm (ps.flatMap gists) := by
  have hsame : Paired (fun o p => o.holds = p.holds ∧ o.gists.Perm p.gists) os ps := by
    apply h.mono
    intro o ho p hp hop
    obtain ⟨b, hb⟩ := hos o ho
    obtain ⟨c, hc⟩ := hps p hp
    obtain ⟨rfl, hperm⟩ := hop b c hb hc
    exact ⟨(holds_of_ok hb).trans (holds_of_ok hc).symm, hperm⟩
  refine ⟨?_, (hsame.flatMap fun o p h => .of_perm h.2).perm⟩
  have hperm : (os.map holds).Perm (ps.map holds) := (hsame.map fun o p h => h.1).perm
  have hall (l : List Outcome) : l.all holds = (l.map holds).all id := by
    rw [List.all_map]
    rfl
  rw [hall, hall, hperm.all_eq]

theorem matches_all {os ps : List Outcome} (h : Paired Matches os ps) :
    (all os).Matches (all ps) := by
  intro b c hb hc
  have hos := (verdict_all_ok hb).1
  have hps := (verdict_all_ok hc).1
  obtain ⟨hholds, hgists⟩ := perm_of_paired h hos hps
  rw [(all_of_answers hos).2] at hb
  rw [(all_of_answers hps).2] at hc
  rw [gists_all hos, gists_all hps]
  exact ⟨(Except.ok.inj hb).symm.trans (hholds.trans (Except.ok.inj hc)), hgists⟩

end Outcome

end Conform
