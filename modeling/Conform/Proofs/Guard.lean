import Conform.Proofs.Related

/-!
The guard against returning references. Judging that stops at the first reference to a place on
the trail judges like one that follows such references, unless it comes to one. If it does, the
place was reached before at the same value, with nothing in between that depends on how it was
reached; following the reference, judging comes to the place again, and so never ends. Hence the
guard stops nothing that would end, and lets nothing pass that would not.
-/
namespace Conform

theorem compatible_eq : Compatible (· = ·) := by
  refine ⟨fun _ _ => rfl, ?_⟩
  intro x y f g hxy h
  obtain rfl := hxy
  obtain rfl : f = g := funext h
  rfl

/-- A verdict that is as good as another one, unless one of them was cut short; the other one is not
that of a returning reference. -/
def Shadows (x y : Except Fault Bool) : Prop :=
  x = .error .outOfSteps ∨ y = .error .outOfSteps ∨ (x = y ∧ x ≠ .error .referenceLoop)

theorem compatible_shadows : Compatible Shadows := by
  refine ⟨fun x hx => .inr (.inr ⟨rfl, hx⟩), ?_⟩
  intro x y f g hxy h
  rcases hxy with rfl | rfl | ⟨rfl, hx⟩
  · exact .inl rfl
  · exact .inr (.inl rfl)
  · cases x with
    | error fault => exact .inr (.inr ⟨rfl, hx⟩)
    | ok b => exact h b

/-- Of one value at one path a target makes sites that are alike, wherever it is reached from. -/
theorem Site.alike_follow {s t : Site} (hvalue : t.value = s.value) (hpath : t.path = s.path)
    (target : Value) (l : Location) : (s.follow target l).Alike (t.follow target l) := by
  refine ⟨(t.follow target l).trail, t.pooled, ?_⟩
  unfold follow
  rw [hvalue, hpath]

namespace Setting

/-- The setting that ends judging at the first returning reference. -/
def stopped (e : Setting) : Setting := { e with loops := .stop }

theorem stopped_ne_follow (e : Setting) : e.stopped.loops ≠ .follow := fun h => nomatch h

/-- Whether judging a site takes a reference for a returning one: the judging that is ended by the
first of them, and is the same up to there, is ended. -/
def Flags (e : Setting) (s : Site) : Prop :=
  (e.stopped.judgeSite s).outcome.verdict = .error .referenceLoop

variable {e : Setting} {s t : Site}

/-- Judging that follows all references does not depend on what was followed before. -/
theorem verdict_unguarded_alike (hv : e.vocabulary = .known) (n : Nat) (hst : s.Alike t) :
    (e.unguarded.judge n s).outcome.verdict = (e.unguarded.judge n t).outcome.verdict := by
  induction n generalizing s t with
  | zero => rfl
  | succ n ih =>
    have huniform := e.unguarded.uniform_judge n
    apply round_related (e := e.unguarded) compatible_eq hv huniform huniform hst
    · exact fun a _ b hab => ih hab
    · exact fun _ _ _ _ hfollow => absurd rfl hfollow

/-- Unless it comes to a returning reference, judging that stops at one is as good as judging that
follows it. -/
theorem shadows_of_ne (m n : Nat)
    (h : (e.stopped.judge m s).outcome.verdict ≠ .error .referenceLoop) :
    Shadows (e.stopped.judge m s).outcome.verdict (e.unguarded.judge n s).outcome.verdict := by
  have hsame : e.unguarded.judge m s = e.stopped.judge m s :=
    judge_agrees_of_stop (e := e.stopped) rfl .follow m s h
  by_cases hm : (e.unguarded.judge m s).outcome.verdict = .error .outOfSteps
  · rw [hsame] at hm
    exact .inl hm
  · by_cases hn : (e.unguarded.judge n s).outcome.verdict = .error .outOfSteps
    · exact .inr (.inl hn)
    · -- neither is cut short, so they are the same with the larger fuel
      have hmax := e.unguarded.judge_agrees (le_max_left m n) s hm
      have hmax' := e.unguarded.judge_agrees (le_max_right m n) s hn
      rw [← hsame, ← hmax', hmax, hsame]
      exact .inr (.inr ⟨rfl, h⟩)

/-- Following any reference to a place on the trail of a site, with less than some fuel, is cut
short. -/
def Stalls (e : Setting) (n : Nat) (s : Site) : Prop :=
  ∀ l target, (l, s.path) ∈ s.trail → e.documents.Stands l target → ∀ k < n,
    (e.unguarded.judge k (s.follow target l)).outcome.verdict = .error .outOfSteps

theorem Stalls.part (hv : e.vocabulary = .known) {n : Nat} (h : e.Stalls (n + 1) s)
    (schema : Value) (location : Location) (pooled : Bool) :
    e.Stalls n { s with schema, location, pooled } := by
  intro l target hl hstands k hk
  have halike : (s.follow target l).Alike
      (({ s with schema, location, pooled } : Site).follow target l) :=
    Site.alike_follow rfl rfl target l
  rw [← verdict_unguarded_alike hv k halike]
  exact h l target hl hstands k (by omega)

theorem Stalls.follow (hv : e.vocabulary = .known) {n k : Nat} (hk : k ≤ n) (h : e.Stalls n s)
    {schema : Value} {location : Location} (hstands : e.documents.Stands location schema)
    (hself : ∀ j < k,
      (e.unguarded.judge j (s.follow schema location)).outcome.verdict = .error .outOfSteps) :
    e.Stalls k (s.follow schema location) := by
  intro l target hl hstands' j hj
  have halike : (s.follow target l).Alike ((s.follow schema location).follow target l) :=
    Site.alike_follow rfl rfl target l
  rw [← verdict_unguarded_alike hv j halike]
  rcases List.mem_append.mp hl with hl | hl
  · exact h l target hl hstands' j (by omega)
  · -- the place itself, where there is only one node
    obtain ⟨rfl, _⟩ := Prod.mk.inj (List.mem_singleton.mp hl)
    obtain rfl := hstands.unique hstands'
    exact hself j hj

/-- If judging that stops at returning references is ended by one, judging that follows them is cut
short by any fuel, provided it is with less fuel at the places on the trail. -/
theorem cutShort_of_stopped (hv : e.vocabulary = .known) (n m : Nat) (s : Site)
    (hstalls : e.Stalls n s)
    (h : (e.stopped.judge m s).outcome.verdict = .error .referenceLoop) :
    (e.unguarded.judge n s).outcome.verdict = .error .outOfSteps := by
  induction n using Nat.strong_induction_on generalizing m s with
  | _ n ih =>
    match n, m with
    | 0, _ => exact congrArg Outcome.verdict (Step.outcome_abort .outOfSteps)
    | n + 1, 0 =>
      have hzero : (e.stopped.judge 0 s).outcome.verdict = .error .outOfSteps :=
        congrArg Outcome.verdict (Step.outcome_abort .outOfSteps)
      cases hzero.symm.trans h
    | n + 1, m + 1 =>
      -- a target at which judging is ended again stalls with ever more fuel
      have htarget {schema : Value} {location : Location}
          (hstands : e.documents.Stands location schema)
          (hended : (e.stopped.judge m (s.follow schema location)).outcome.verdict =
            .error .referenceLoop) (k : Nat) (hk : k ≤ n) :
          (e.unguarded.judge k (s.follow schema location)).outcome.verdict =
            .error .outOfSteps := by
        induction k using Nat.strong_induction_on with
        | _ k ihk =>
          have hself : e.Stalls k (s.follow schema location) :=
            hstalls.follow hv (by omega) hstands fun j hj => ihk j hj (by omega)
          exact ih k (by omega) m _ hself hended
      have hcalls (a : Site) (ha : a ∈ e.stopped.calls s) (b : Site) (hab : a.Alike b) :
          Shadows (e.stopped.judge m a).outcome.verdict
            (e.unguarded.judge n b).outcome.verdict := by
        rw [← verdict_unguarded_alike hv n hab]
        by_cases hended : (e.stopped.judge m a).outcome.verdict = .error .referenceLoop
        · refine .inr (.inl ?_)
          cases leads_of_calls (e := e.stopped) hv e.stopped_ne_follow ha with
          | part hlt location pooled =>
            exact ih n (by omega) m _ (hstalls.part hv _ location pooled) hended
          | target hr hnew => exact htarget (Documents.stands_of_resolve hr) hended n le_rfl
          | child hc hlt steps =>
            -- a child begins a new trail
            refine ih n (by omega) m _ ?_ hended
            intro l target hl
            simp [Site.child] at hl
        · exact shadows_of_ne m n hended
      have hrelated : Shadows (e.stopped.judge (m + 1) s).outcome.verdict
          (e.unguarded.judge (n + 1) s).outcome.verdict := by
        apply round_related (e := e.stopped) compatible_shadows hv (e.stopped.uniform_judge m)
          (e.unguarded.uniform_judge n) (.refl s) hcalls
        intro ref l target hr _ hmem
        exact .inr (.inl (hstalls l target hmem (Documents.stands_of_resolve hr) n (by omega)))
      rcases hrelated with hcut | hcut | ⟨_, hne⟩
      · cases hcut.symm.trans h
      · exact hcut
      · exact absurd h hne

/-- Judging that is not ended by a returning reference is the same whatever is done about these. -/
theorem judge_eq_of_not_flags (hv : e.vocabulary = .known)
    (hs : s.OnTrail e.documents) (h : ¬ e.Flags s) {n : Nat} (hn : e.fuelFor s ≤ n) :
    e.unguarded.judge n s = e.judgeSite s := by
  have hstopped : e.stopped.judge n s = e.stopped.judgeSite s := by
    rw [judge_eq_rounds]
    exact rounds_fuelFor (e := e.stopped) hv e.stopped_ne_follow hs _ hn
  have hreported : e.judgeSite s = e.stopped.judgeSite s :=
    judge_agrees_of_stop (e := e.stopped) rfl e.loops (e.fuelFor s) s h
  have hfollowed : e.unguarded.judge n s = e.stopped.judge n s := by
    apply judge_agrees_of_stop (e := e.stopped) rfl .follow n s
    rw [hstopped]
    exact h
  rw [hfollowed, hstopped, hreported]

end Setting

namespace Validator

/-- The guard is exact. If validating a value takes no reference for a returning one, not even in a
trial of which nothing is reported, then judging that follows all references comes to the same with
all fuel from some amount on: to the same verdict, messages and notes. If it does take one, judging
that follows all references never ends. -/
theorem guard_exact (schema : Value) (d : Documents) (o : Options) (l : Location) (x : Value) :
    let v : Validator := ⟨schema, ⟨.known, d, o, .report⟩, l⟩
    (¬ v.setting.Flags (v.site x) → ∃ enough, ∀ n, enough ≤ n →
      v.setting.unguarded.judge n (v.site x) = v.setting.judgeSite (v.site x)) ∧
    (v.setting.Flags (v.site x) → ∀ n,
      (v.setting.unguarded.judge n (v.site x)).outcome.verdict = .error .outOfSteps) := by
  intro v
  constructor
  · intro h
    refine ⟨v.setting.fuelFor (v.site x), ?_⟩
    intro n hn
    exact Setting.judge_eq_of_not_flags rfl (.of_trail_eq_nil rfl) h hn
  · intro h n
    have hfresh : v.setting.Stalls n (v.site x) := fun l target hl => by simp [site] at hl
    exact Setting.cutShort_of_stopped rfl n _ _ hfresh h

/-- A schema that disallows itself comes back to itself within a trial. -/
example :
    let schema : Value := .obj [("disallow", .arr [.obj [("$ref", .str "#")]])]
    let v : Validator := ⟨schema, ⟨.known, ⟨"", [("", schema)]⟩, {}, .report⟩, {}⟩
    v.setting.Flags (v.site (.int 1)) := rfl

end Validator

end Conform
