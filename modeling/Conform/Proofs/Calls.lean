import Conform.Judge

/-!
The sites that come up in judging a site: those that the logic of its keywords may have judged,
and its children. One round of judging depends on the judge of the sites below only through what
that judge does at these.
-/
namespace Conform

namespace Logic

/-- The sites that a logic may have judged. -/
def calls (e : Setting) (s : Site) : Logic → List Site
  | .types keyword _ schemas _ =>
    schemas.map fun p => s.scratch p.schema (partLocation s keyword p)
  | .extending schemas => schemas.map fun p => s.under p.schema (partLocation s "extends" p)
  | .dependencies _ schemas =>
    match s.value with
    | .obj members =>
      (schemas.filter fun d => Members.has members d.1).map fun d =>
        s.under d.2 (s.location.append [.name "dependencies", .name d.1])
    | _ => []
  | .reference ref =>
    match e.documents.resolve (.str ref) s.location with
    | .ok (location, target) =>
      if e.loops != .follow && s.trail.contains (location, s.path) then []
      else [s.follow target location]
    | .error _ => []
  | _ => []

variable {J K : Judge}

theorem tries_congr {ss : List Site} (h : ∀ s ∈ ss, J s = K s) (notes : List Note) :
    tries J ss notes = tries K ss notes := by
  -- notes grow from trial to trial, so they are generalized
  induction ss generalizing notes with
  | nil => rfl
  | cons s ss ih =>
    obtain ⟨hs, hss⟩ := List.forall_mem_cons.mp h
    simp only [tries, hs, ih hss]

theorem run_congr (e : Setting) (keyword : String) (l : Logic) (s : Site)
    (h : ∀ t ∈ l.calls e s, J t = K t) : l.run e J keyword s = l.run e K keyword s := by
  cases l with
  | types keyword names schemas negated =>
    have hm (notes : List Note) : matching J keyword names schemas s notes =
        matching K keyword names schemas s notes := by
      unfold matching
      split
      · rfl
      · rfl
      · exact tries_congr h notes
    funext j
    simp only [run, judgeTypes, hm]
  | extending schemas =>
    have hp : schemas.map (fun p => J (s.under p.schema (partLocation s "extends" p))) =
        schemas.map fun p => K (s.under p.schema (partLocation s "extends" p)) := by
      apply List.map_congr_left
      intro p hp
      exact h _ (List.mem_map.mpr ⟨p, hp, rfl⟩)
    simp only [run, judgeParts, hp]
  | dependencies required schemas =>
    simp only [run, judgeDependencies]
    split
    · rename_i members hv
      have hd : schemas.map (judgeDependent J s members) =
          schemas.map (judgeDependent K s members) := by
        apply List.map_congr_left
        intro d hd
        simp only [judgeDependent]
        split
        · rename_i hmem
          apply h
          simp only [calls, hv]
          exact List.mem_map.mpr ⟨d, List.mem_filter.mpr ⟨hd, hmem⟩, rfl⟩
        · rfl
      rw [hd]
    · rfl
  | reference ref =>
    simp only [run, judgeReference]
    split
    · rfl
    · rename_i location target hr
      split
      · rfl
      · rename_i hloop
        apply h
        simp only [calls, hr, if_neg hloop, List.mem_singleton]
  | _ => rfl

end Logic

namespace Checker

def childCalls (kind : Kind) (s : Site) : List Site :=
  match Job.ofSite kind s with
  | .ok jobs => jobs.map (·.site s)
  | .error _ => []

mutual

def calls (e : Setting) : Checker → List Site
  | .single _ logic s => logic.calls e s
  | .all members => callsAll e members
  | .container kind node s => calls e node ++ childCalls kind s
  | _ => []

def callsAll (e : Setting) : List Checker → List Site
  | [] => []
  | c :: cs => calls e c ++ callsAll e cs

end

mutual

/-- The sites that a checker is bound to. -/
def sites : Checker → List Site
  | .single _ _ s => [s]
  | .all members => sitesAll members
  | .container _ node s => s :: sites node
  | _ => []

def sitesAll : List Checker → List Site
  | [] => []
  | c :: cs => sites c ++ sitesAll cs

end

variable {J K : Judge}

theorem runChildren_congr (e : Setting) (kind : Kind) (s : Site)
    (h : ∀ t ∈ childCalls kind s, J t = K t) :
    runChildren e J kind s = runChildren e K kind s := by
  unfold runChildren
  split
  · rfl
  · rename_i jobs hjobs
    -- the jobs do not depend on the judge, only their steps do
    have hsteps : (jobs.map fun job => J (job.site s)) = jobs.map fun job => K (job.site s) := by
      apply List.map_congr_left
      intro job hjob
      apply h
      simp only [childCalls, hjobs]
      exact List.mem_map.mpr ⟨job, hjob, rfl⟩
    rw [hsteps]

mutual

theorem run_congr (e : Setting) : ∀ c : Checker, (∀ t ∈ c.calls e, J t = K t) →
    c.run e J = c.run e K
  | .always, _ => rfl
  | .never none, _ => rfl
  | .never (some _), _ => rfl
  | .single keyword logic s, h => logic.run_congr e keyword s h
  | .all members, h => runAll_congr e members h
  | .container kind node s, h => by
    have hn := run_congr e node fun t ht => h t (List.mem_append_left _ ht)
    have hc := runChildren_congr e kind s fun t ht => h t (List.mem_append_right _ ht)
    simp only [run, hn, hc]
  | .stray _, _ => rfl

theorem runAll_congr (e : Setting) : ∀ cs : List Checker, (∀ t ∈ callsAll e cs, J t = K t) →
    runAll e J cs = runAll e K cs
  | [], _ => rfl
  | c :: cs, h => by
    have hc := run_congr e c fun t ht => h t (List.mem_append_left _ ht)
    have hcs := runAll_congr e cs fun t ht => h t (List.mem_append_right _ ht)
    simp only [runAll, hc, hcs]

end

end Checker

namespace Setting

/-- The sites that judging a site may have judged. -/
def calls (e : Setting) (s : Site) : List Site :=
  match (Checker.forSite e.vocabulary s).2 with
  | .ok c => c.calls e
  | .error _ => []

/-- A round of judging is settled by what the judge of the sites below does at the sites that come
up. -/
theorem round_congr (e : Setting) {J K : Judge} {s : Site} (h : ∀ t ∈ e.calls s, J t = K t) :
    e.round J s = e.round K s := by
  funext j
  rcases hc : Checker.forSite e.vocabulary s with ⟨notes, f | c⟩
  · simp only [round, hc]
  · have hrun : c.run e J = c.run e K := by
      apply c.run_congr e
      simpa only [calls, hc] using h
    simp only [round, hc, hrun]

/-- `fuel` rounds, with `J` to judge the sites that come up in the last one. -/
def rounds (e : Setting) (J : Judge) : Nat → Judge
  | 0 => J
  | fuel + 1 => e.round (e.rounds J fuel)

theorem judge_eq_rounds (e : Setting) (fuel : Nat) :
    e.judge fuel = e.rounds (fun _ => Step.abort .outOfSteps) fuel := by
  induction fuel with
  | zero => rfl
  | succ fuel ih =>
    funext s
    simp only [judge, rounds, ih]

end Setting

end Conform
