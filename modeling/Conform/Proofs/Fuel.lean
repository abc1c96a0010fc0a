import Conform.Proofs.Dispatch

/-!
Judges that go on from others. A step agrees with another one unless some fault ends it if the two
are the same whenever that one does not end in the fault. Rounds keep this of their judges, also
if one of them deals otherwise with returning references, provided the fault is what the other
raises for them. So fuel counts only until there is an answer: whatever is not cut short is the
same, with all that is found on the way to it, for any more fuel.
-/
namespace Conform

namespace Step

/-- A step that is the same as another one unless that ends in a fault. -/
def AgreesUnless (f : Fault) (t s : Step) : Prop := s.outcome.verdict ≠ .error f → t = s

variable {f : Fault} {a b a' b' : Step}

theorem AgreesUnless.refl (s : Step) : s.AgreesUnless f s := fun _ => rfl

theorem AgreesUnless.both (ha : a.Uniform) (hb : b.Uniform) (ha' : a'.AgreesUnless f a)
    (hb' : b'.AgreesUnless f b) : (Step.both a' b').AgreesUnless f (Step.both a b) := by
  intro h
  rw [outcome_both ha hb] at h
  have hfirst : a.outcome.verdict ≠ .error f :=
    fun hf => h (Outcome.verdict_andThen_error.mpr (.inl hf))
  rw [ha' hfirst]
  cases hx : a.outcome.verdict with
  | error g =>
    -- the second step never runs
    funext j
    simp only [Step.both, ha j, Outcome.onto, hx]
  | ok x =>
    have hsecond : b.outcome.verdict ≠ .error f :=
      fun hf => h (Outcome.verdict_andThen_error.mpr (.inr ⟨x, hx, hf⟩))
    rw [hb' hsecond]

theorem AgreesUnless.apart (ha : a.Uniform) (ha' : a'.AgreesUnless f a) :
    (Step.apart a').AgreesUnless f (Step.apart a) := by
  intro h
  rw [outcome_apart ha, Outcome.verdict_apart] at h
  rw [ha' h]

theorem agreesUnless_all {ts ss : List Step} (hss : ∀ s ∈ ss, s.Uniform)
    (h : List.Forall₂ (AgreesUnless f) ts ss) : (all ts).AgreesUnless f (all ss) := by
  induction h with
  | nil => exact .refl _
  | cons hs _ ih =>
    obtain ⟨huniform, hrest⟩ := List.forall_mem_cons.mp hss
    exact hs.both huniform (uniform_all hrest) (ih hrest)

end Step

/-- A judge that judges as another one does wherever that does not end in a fault. -/
def Judge.AgreesUnless (f : Fault) (K J : Judge) : Prop := ∀ s, (K s).AgreesUnless f (J s)

/-- Whether a policy makes no difference to a setting but where that raises the fault. -/
def LoopPolicy.Refines (p : LoopPolicy) (e : Setting) (f : Fault) : Prop :=
  p = e.loops ∨ (e.loops = .stop ∧ f = .referenceLoop)

namespace Logic

variable {e : Setting} {p : LoopPolicy} {J K : Judge} {s : Site} {f : Fault}

/-- Trials that are not cut short do not go further with a judge that goes further. -/
theorem tries_agrees (hJ : J.Uniform) (h : K.AgreesUnless f J) {ss : List Site}
    {notes : List Note} (hp : (tries J ss notes).2 ≠ .error f) :
    tries K ss notes = tries J ss notes := by
  induction ss generalizing notes with
  | nil => rfl
  | cons s ss ih =>
    have hsame : K s = J s := by
      apply h s
      intro hf
      simp only [tries, hJ s _, Outcome.onto, hf] at hp
      exact hp rfl
    simp only [tries, hsame]
    simp only [tries, hJ s _, Outcome.onto] at hp ⊢
    cases hv : (J s).outcome.verdict with
    | error g => rfl
    | ok b =>
      cases b with
      | true => rfl
      | false =>
        -- this trial is over, so the others are not cut short either
        rw [hv] at hp
        simp only at hp ⊢
        have hrest : (tries J ss ((J s).outcome.notes ++ notes)).2 ≠ .error f := by
          intro hf
          rcases htries : tries J ss ((J s).outcome.notes ++ notes) with ⟨later, r⟩
          rw [htries] at hf hp
          subst hf
          exact hp rfl
        rw [ih hrest]

theorem types_agrees (hJ : J.Uniform) (h : K.AgreesUnless f J) (keyword : String)
    (names : List String) (parts : List Part) (negated : Bool) :
    (judgeTypes K keyword names parts negated s).AgreesUnless f
      (judgeTypes J keyword names parts negated s) := by
  intro hf
  have hmatching (notes : List Note) :
      matching K keyword names parts s notes = matching J keyword names parts s notes := by
    rw [Step.outcome_eq (judgeTypes_onto hJ keyword names parts negated s)] at hf
    have hne : (matching J keyword names parts s notes).2 ≠ .error f := by
      rw [matching_notes hJ]
      intro hm
      unfold typesOutcome at hf
      rcases hpair : matching J keyword names parts s [] with ⟨later, r⟩
      rw [hpair] at hm hf
      obtain rfl : r = .error f := hm
      exact hf rfl
    unfold matching at hne ⊢
    split
    · rfl
    · rfl
    · rename_i hno
      rw [hno] at hne
      exact tries_agrees hJ h hne
  funext j
  simp only [judgeTypes, hmatching]

theorem dependencies_agrees (hJ : J.Uniform) (h : K.AgreesUnless f J)
    (required : List (String × List String)) (schemas : Members) :
    (judgeDependencies K required schemas s).AgreesUnless f
      (judgeDependencies J required schemas s) := by
  unfold judgeDependencies
  split
  · rename_i members _
    apply Step.agreesUnless_all (uniform_dependencySteps hJ required schemas s members)
    apply List.rel_append
    · exact forall₂_map fun _ _ => .refl _
    · apply forall₂_map
      intro d _
      unfold judgeDependent
      split
      · exact h _
      · exact .refl _
  · exact .refl _

theorem reference_agrees (hp : p.Refines e f) (h : K.AgreesUnless f J) (ref : String) :
    (judgeReference { e with loops := p } K ref s).AgreesUnless f
      (judgeReference e J ref s) := by
  unfold judgeReference
  cases e.documents.resolve (.str ref) s.location with
  | error g => exact .refl _
  | ok found =>
    obtain ⟨location, target⟩ := found
    dsimp only
    rcases hp with rfl | ⟨hstop, rfl⟩
    · split
      · exact .refl _
      · exact h _
    · by_cases hback : s.trail.contains (location, s.path)
      · -- the other setting raises the fault here
        intro hne
        have hreturns : (e.loops != .follow && s.trail.contains (location, s.path)) = true := by
          rw [hstop, hback]
          rfl
        rw [if_pos hreturns, if_pos hstop, Step.outcome_abort] at hne
        exact absurd rfl hne
      · simp only [hback, Bool.and_false]
        exact h _

theorem run_agrees (hp : p.Refines e f) (hJ : J.Uniform) (h : K.AgreesUnless f J)
    (keyword : String) (l : Logic) :
    (l.run { e with loops := p } K keyword s).AgreesUnless f (l.run e J keyword s) := by
  cases l with
  | types keyword names parts negated => exact types_agrees hJ h keyword names parts negated
  | extending parts =>
    exact Step.agreesUnless_all (hJ.map _ _) (forall₂_map fun _ _ => h _)
  | dependencies required schemas => exact dependencies_agrees hJ h required schemas
  | reference ref => exact reference_agrees hp h ref
  | _ => exact .refl _

end Logic

namespace Checker

variable {e : Setting} {p : LoopPolicy} {J K : Judge} {f : Fault}

theorem runChildren_agrees (hJ : J.Uniform) (h : K.AgreesUnless f J) (kind : Kind) (s : Site) :
    (runChildren { e with loops := p } K kind s).AgreesUnless f (runChildren e J kind s) := by
  unfold runChildren
  split
  · exact .refl _
  · rename_i jobs _
    dsimp only
    split
    · have hapart : (Step.all ((jobs.map fun job => K (job.site s)).map Step.apart)).AgreesUnless f
          (Step.all ((jobs.map fun job => J (job.site s)).map Step.apart)) := by
        apply Step.agreesUnless_all (Step.uniform_map_apart (hJ.map jobs _))
        rw [List.map_map, List.map_map]
        exact forall₂_map fun _ _ => (h _).apart (hJ _)
      -- the note is taken before either of them
      intro hne
      have hall := Step.uniform_all (Step.uniform_map_apart (hJ.map jobs fun job => job.site s))
      rw [Step.outcome_eq (Step.note_onto hall _), Outcome.verdict_after] at hne
      rw [hapart hne]
    · exact Step.agreesUnless_all (hJ.map jobs _) (forall₂_map fun _ _ => h _)

mutual

theorem run_agrees (hp : p.Refines e f) (hJ : J.Uniform) (h : K.AgreesUnless f J) :
    ∀ c : Checker, (c.run { e with loops := p } K).AgreesUnless f (c.run e J)
  | .always => .refl _
  | .never none => .refl _
  | .never (some _) => .refl _
  | .single keyword l _ => l.run_agrees hp hJ h keyword
  | .all cs => runAll_agrees hp hJ h cs
  | .container kind c s =>
    (run_agrees hp hJ h c).both (uniform_run e hJ c) (uniform_runChildren e hJ kind s)
      (runChildren_agrees hJ h kind s)
  | .stray _ => .refl _

theorem runAll_agrees (hp : p.Refines e f) (hJ : J.Uniform) (h : K.AgreesUnless f J) :
    ∀ cs : List Checker, (runAll { e with loops := p } K cs).AgreesUnless f (runAll e J cs)
  | [] => .refl _
  | c :: cs =>
    (run_agrees hp hJ h c).both (uniform_run e hJ c) (uniform_runAll e hJ cs)
      (runAll_agrees hp hJ h cs)

end

end Checker

namespace Setting

variable {e : Setting} {p : LoopPolicy} {J K : Judge} {f : Fault}

theorem round_agrees (hp : p.Refines e f) (hJ : J.Uniform) (h : K.AgreesUnless f J) :
    Judge.AgreesUnless f (({ e with loops := p } : Setting).round K) (e.round J) := by
  intro s hne
  rcases hc : Checker.forSite e.vocabulary s with ⟨notes, g | c⟩
  · funext j
    simp only [round, hc]
  · rw [outcome_round hJ hc, Outcome.verdict_after] at hne
    have hrun := c.run_agrees hp hJ h hne
    funext j
    simp only [round, hc, hrun]

theorem judge_succ_agrees (e : Setting) (fuel : Nat) :
    Judge.AgreesUnless .outOfSteps (e.judge (fuel + 1)) (e.judge fuel) := by
  induction fuel with
  | zero =>
    intro s hne
    exact absurd (congrArg Outcome.verdict (Step.outcome_abort .outOfSteps)) hne
  | succ fuel ih => exact round_agrees (.inl rfl) (e.uniform_judge fuel) ih

/-- With more fuel everything stays that was not cut short, and all that was found on the way. -/
theorem judge_agrees (e : Setting) {n m : Nat} (h : n ≤ m) :
    Judge.AgreesUnless .outOfSteps (e.judge m) (e.judge n) := by
  induction m, h using Nat.le_induction with
  | base => exact fun s => .refl _
  | succ m _ ih =>
    intro s hne
    have hm : e.judge m s = e.judge n s := ih s hne
    have hstep : e.judge (m + 1) s = e.judge m s := by
      apply e.judge_succ_agrees m s
      rw [hm]
      exact hne
    rw [hstep, hm]

/-- A setting that raises a fault where references return judges like any other, unless it comes to
that. -/
theorem judge_agrees_of_stop (hstop : e.loops = .stop) (p : LoopPolicy) (fuel : Nat) :
    Judge.AgreesUnless .referenceLoop (({ e with loops := p } : Setting).judge fuel)
      (e.judge fuel) := by
  induction fuel with
  | zero => exact fun s => .refl _
  | succ fuel ih => exact round_agrees (.inr ⟨hstop, rfl⟩) (e.uniform_judge fuel) ih

/-- Two amounts of fuel that are both enough for a checker to answer come to the same. -/
theorem runChecker_eq_of_ok (e : Setting) {c : Checker} {n m : Nat} {x y : Bool}
    (hn : (e.runChecker c n).outcome.verdict = .ok x)
    (hm : (e.runChecker c m).outcome.verdict = .ok y) : e.runChecker c n = e.runChecker c m := by
  have hmore {k l : Nat} {z : Bool} (hkl : k ≤ l)
      (hk : (e.runChecker c k).outcome.verdict = .ok z) :
      e.runChecker c l = e.runChecker c k := by
    apply c.run_agrees (.inl rfl) (e.uniform_judge k) (e.judge_agrees hkl)
    intro hcut
    cases hk.symm.trans hcut
  by_cases h : n ≤ m
  · exact (hmore h hn).symm
  · exact hmore (by omega) hm

end Setting

end Conform
