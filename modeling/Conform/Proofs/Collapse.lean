import Conform.Proofs.Outcome
import Mathlib.Data.List.Induction

/-!
Collapsing repeated schema faults. Collecting with collapse looks only at the faults kept so far,
while a repetition is a matter of all faults that came before. The two agree because lying at or
above another location is transitive: a dropped fault lies under a kept one, and so does everything
under it.
-/
namespace Conform

namespace Location

theorem isParentOf_iff {a b : Location} :
    a.isParentOf b = true ↔ a.uri = b.uri ∧ a.pointer.tokens <+: b.pointer.tokens := by
  simp [isParentOf, Pointer.isParentOf]

theorem isParentOf_refl (a : Location) : a.isParentOf a = true :=
  isParentOf_iff.mpr ⟨rfl, List.prefix_rfl⟩

theorem isParentOf_trans {a b c : Location} (hab : a.isParentOf b = true)
    (hbc : b.isParentOf c = true) : a.isParentOf c = true := by
  have huri := (isParentOf_iff.mp hab).1.trans (isParentOf_iff.mp hbc).1
  have htokens := (isParentOf_iff.mp hab).2.trans (isParentOf_iff.mp hbc).2
  exact isParentOf_iff.mpr ⟨huri, htokens⟩

end Location

namespace Region

/-- Regions of the two sorts are told apart, so a location lies only under locations. -/
theorem isParentOf_trans {a b : Location} {region : Region} (hab : a.isParentOf b = true)
    (hb : (Region.location b).isParentOf region = true) :
    (Region.location a).isParentOf region = true := by
  cases region with
  | pointer p => cases hb
  | location c => exact Location.isParentOf_trans hab hb

end Region

namespace Diagnostic

/-- The location of the schema node that could not be used, if the diagnostic tells of one. -/
def failedAt (d : Diagnostic) : Option Location := if d.isConstruction then d.schema else none

/-- Whether the diagnostic tells of a node at or under one that an earlier diagnostic told of. -/
def repeats (d : Diagnostic) (earlier : List Diagnostic) : Bool :=
  d.failedAt.any fun l => (earlier.filterMap failedAt).any (·.isParentOf l)

/-- A diagnostic that tells of no node repeats none. -/
theorem repeats_of_none {d : Diagnostic} (hd : d.failedAt = none) (earlier : List Diagnostic) :
    d.repeats earlier = false := by
  simp [repeats, hd]

theorem repeats_of_some {d : Diagnostic} {l : Location} (hd : d.failedAt = some l)
    (earlier : List Diagnostic) :
    d.repeats earlier = (earlier.filterMap failedAt).any (·.isParentOf l) := by
  simp [repeats, hd]

/-- The diagnostics of a list that repeat none before them, kept or not, with their positions. -/
def firsts (source : List Diagnostic) : List (Diagnostic × Nat) :=
  source.zipIdx.filter fun m => !m.1.repeats (source.take m.2)

/-- The diagnostics that collapsing keeps. -/
def kept (source : List Diagnostic) : List Diagnostic := (firsts source).map Prod.fst

theorem firsts_concat (source : List Diagnostic) (d : Diagnostic) :
    firsts (source ++ [d]) =
      firsts source ++ if d.repeats source then [] else [(d, source.length)] := by
  -- what stands before a position of `source` is the same in the longer list
  have hbefore : (source.zipIdx.filter fun m => !m.1.repeats ((source ++ [d]).take m.2)) =
      firsts source := by
    apply List.filter_congr
    intro m hm
    have hlt : m.2 < source.length := by
      have := List.snd_lt_of_mem_zipIdx hm
      omega
    rw [List.take_append_of_le_length (Nat.le_of_lt hlt)]
  have hlast : List.take source.length (source ++ [d]) = source := List.take_left
  rw [firsts, List.zipIdx_append, List.filter_append, hbefore]
  cases hd : d.repeats source with
  | true => simp [hlast, hd]
  | false => simp [hlast, hd]

theorem kept_concat (source : List Diagnostic) (d : Diagnostic) :
    kept (source ++ [d]) = kept source ++ if d.repeats source then [] else [d] := by
  rw [kept, firsts_concat, List.map_append]
  split <;> rfl

theorem mem_of_mem_kept {source : List Diagnostic} {d : Diagnostic} (h : d ∈ kept source) :
    d ∈ source := by
  obtain ⟨m, hm, rfl⟩ := List.mem_map.mp h
  exact List.fst_mem_of_mem_zipIdx (List.mem_filter.mp hm).1

/-- Each fault lies at or under one that is kept and comes no later. -/
theorem exists_first {source : List Diagnostic} {m : Diagnostic × Nat} (hm : m ∈ source.zipIdx)
    {l : Location} (hl : m.1.failedAt = some l) :
    ∃ n ∈ firsts source, n.2 ≤ m.2 ∧ ∃ l', n.1.failedAt = some l' ∧ l'.isParentOf l = true := by
  -- the earliest fault at or above `l` repeats none, or there would be an earlier one
  induction hk : m.2 using Nat.strongRecOn generalizing m l with
  | ind k ih =>
    subst hk
    cases hr : m.1.repeats (source.take m.2) with
    | false =>
      have hfirst : m ∈ firsts source := List.mem_filter.mpr ⟨hm, by simp [hr]⟩
      exact ⟨m, hfirst, Nat.le_refl _, l, hl, l.isParentOf_refl⟩
    | true =>
      rw [repeats_of_some hl, List.any_eq_true] at hr
      obtain ⟨a, ha, hal⟩ := hr
      obtain ⟨c, hc, hca⟩ := List.mem_filterMap.mp ha
      obtain ⟨j, hj, rfl⟩ := List.mem_iff_getElem.mp hc
      have hlt : j < m.2 ∧ j < source.length := by
        rw [List.length_take] at hj
        omega
      have hmem : (source[j], j) ∈ source.zipIdx := by
        simp [List.mem_zipIdx_iff_getElem?]
      have hat : source[j].failedAt = some a := by simpa using hca
      obtain ⟨n, hn, hle, b, hb, hba⟩ := ih j hlt.1 hmem hat rfl
      have hbefore : n.2 ≤ m.2 := Nat.le_of_lt (Nat.lt_of_le_of_lt hle hlt.1)
      exact ⟨n, hn, hbefore, b, hb, Location.isParentOf_trans hba hal⟩

/-- Of two kept faults the later does not lie at or under the earlier. -/
theorem pairwise_kept (source : List Diagnostic) :
    (kept source).Pairwise fun c d => d.repeats [c] = false := by
  induction source using List.reverseRecOn with
  | nil => exact List.Pairwise.nil
  | append_singleton source d ih =>
    rw [kept_concat]
    cases hr : d.repeats source with
    | true => simpa using ih
    | false =>
      refine List.pairwise_append.mpr ⟨ih, List.pairwise_singleton _ _, ?_⟩
      intro c hc d' hd'
      obtain rfl : d' = d := by simpa using hd'
      have hmem : c ∈ source := mem_of_mem_kept hc
      cases hl : d'.failedAt with
      | none => exact repeats_of_none hl _
      | some l =>
        rw [repeats_of_some hl] at hr ⊢
        simp only [List.any_eq_false, List.mem_filterMap] at hr ⊢
        rintro a ⟨c', hc', ha⟩
        obtain rfl : c' = c := List.mem_singleton.mp hc'
        exact hr a ⟨c', hmem, ha⟩

/-- Where no fault lies at or under an earlier one, nothing is dropped. -/
theorem kept_eq_self {source : List Diagnostic}
    (h : source.Pairwise fun c d => d.repeats [c] = false) : kept source = source := by
  induction source using List.reverseRecOn with
  | nil => rfl
  | append_singleton source d ih =>
    obtain ⟨hsource, -, hlast⟩ := List.pairwise_append.mp h
    have hr : d.repeats source = false := by
      cases hl : d.failedAt with
      | none => exact repeats_of_none hl _
      | some l =>
        rw [repeats_of_some hl]
        simp only [List.any_eq_false, List.mem_filterMap]
        rintro a ⟨c, hc, ha⟩
        have hcd := hlast c hc d (List.mem_singleton_self d)
        rw [repeats_of_some hl] at hcd
        simpa [ha] using hcd
    rw [kept_concat, ih hsource]
    simp [hr]

end Diagnostic

namespace FaultReport

open Diagnostic

/-- What collecting has made of a target once it has taken some messages: the faults among them,
their locations, and the target with all of them. -/
structure Gathered (taken : List Diagnostic) (target : Report) (state : FaultReport × Report) :
    Prop where
  faults : state.1.report = ⟨.debug, taken.filter (·.failedAt.isSome)⟩
  regions : ∀ region, region ∈ state.1.ignored ↔
    ∃ l ∈ taken.filterMap failedAt, region = .location l
  target : state.2 = target.logAll taken

theorem mem_ignored_mark {f : FaultReport} {x region : Region} :
    region ∈ (f.mark x).ignored ↔ region ∈ f.ignored ∨ region = x := by
  unfold mark
  split
  · rename_i h
    have hx : x ∈ f.ignored := by simpa using h
    constructor
    · exact Or.inl
    · rintro (hregion | rfl)
      · exact hregion
      · exact hx
  · simp

theorem collectStep_of_none (collapse : Bool) (state : FaultReport × Report) {d : Diagnostic}
    (hd : d.failedAt = none) : collectStep collapse state d = (state.1, state.2.log d) := by
  unfold collectStep
  dsimp only
  split
  · rename_i hconstruction hschema
    simp [failedAt, hconstruction, hschema] at hd
  · rfl

theorem collectStep_of_some (collapse : Bool) (state : FaultReport × Report) {d : Diagnostic}
    {l : Location} (hd : d.failedAt = some l) :
    collectStep collapse state d =
      if collapse && state.1.isIgnored (.location l) then state
      else ((state.1.mark (.location l)).add d, state.2.log d) := by
  obtain ⟨hconstruction, hschema⟩ : d.isConstruction = true ∧ d.schema = some l := by
    simpa [failedAt] using hd
  simp only [collectStep, hconstruction, hschema]

namespace Gathered

variable {taken : List Diagnostic} {target : Report} {state : FaultReport × Report}

theorem isIgnored_iff (h : Gathered taken target state) (region : Region) :
    state.1.isIgnored region = true ↔
      ∃ l ∈ taken.filterMap failedAt, (Region.location l).isParentOf region = true := by
  simp only [isIgnored, List.any_eq_true]
  constructor
  · rintro ⟨x, hx, hparent⟩
    obtain ⟨l, hl, rfl⟩ := (h.regions x).mp hx
    exact ⟨l, hl, hparent⟩
  · rintro ⟨l, hl, hparent⟩
    exact ⟨.location l, (h.regions _).mpr ⟨l, hl, rfl⟩, hparent⟩

/-- A message that is no fault goes to the target only. -/
theorem pass (h : Gathered taken target state) {d : Diagnostic} (hd : d.failedAt = none) :
    Gathered (taken ++ [d]) target (state.1, state.2.log d) where
  faults := by simp [h.faults, hd]
  regions := by simpa [hd] using h.regions
  target := by
    rw [h.target, Report.logAll_append]
    rfl

/-- A fault that is kept goes to both, and its location is marked. -/
theorem keep (h : Gathered taken target state) {d : Diagnostic} {l : Location}
    (hd : d.failedAt = some l) :
    Gathered (taken ++ [d]) target ((state.1.mark (.location l)).add d, state.2.log d) where
  faults := by
    have hmark : (state.1.mark (.location l)).report = state.1.report := by
      unfold mark
      split <;> rfl
    simp [FaultReport.add, Report.add, hmark, h.faults, hd]
  regions := by
    intro region
    have hmark : region ∈ ((state.1.mark (.location l)).add d).ignored ↔
        region ∈ state.1.ignored ∨ region = .location l := mem_ignored_mark
    rw [hmark, h.regions]
    simp only [List.filterMap_append, List.mem_append, List.filterMap_cons, hd,
      List.filterMap_nil, List.mem_singleton]
    constructor
    · rintro (⟨a, ha, rfl⟩ | rfl)
      · exact ⟨a, .inl ha, rfl⟩
      · exact ⟨l, .inr rfl, rfl⟩
    · rintro ⟨a, ha | rfl, rfl⟩
      · exact .inl ⟨a, ha, rfl⟩
      · exact .inr rfl
  target := by
    rw [h.target, Report.logAll_append]
    rfl

end Gathered

theorem gathered_all (source : List Diagnostic) (target : Report) :
    Gathered source target (collect source target false) := by
  induction source using List.reverseRecOn with
  | nil => exact ⟨rfl, by simp [collect], rfl⟩
  | append_singleton source d ih =>
    have hstep : collect (source ++ [d]) target false =
        collectStep false (collect source target false) d :=
      List.foldl_concat ..
    rw [hstep]
    cases hd : d.failedAt with
    | none =>
      rw [collectStep_of_none false _ hd]
      exact ih.pass hd
    | some l =>
      rw [collectStep_of_some false _ hd]
      exact ih.keep hd

/-- Without collapsing, collecting keeps whatever reaches the threshold. -/
theorem collect_all (found : List Diagnostic) (target : Report) :
    (collect found target false).2 = target.logAll found :=
  (gathered_all found target).target

/-- A region lies under a kept fault when it lies under any fault. -/
theorem exists_kept_iff (source : List Diagnostic) (region : Region) :
    (∃ l ∈ (kept source).filterMap failedAt, (Region.location l).isParentOf region = true) ↔
      ∃ l ∈ source.filterMap failedAt, (Region.location l).isParentOf region = true := by
  constructor
  · rintro ⟨l, hl, hparent⟩
    obtain ⟨d, hd, hdl⟩ := List.mem_filterMap.mp hl
    exact ⟨l, List.mem_filterMap.mpr ⟨d, mem_of_mem_kept hd, hdl⟩, hparent⟩
  · rintro ⟨l, hl, hparent⟩
    obtain ⟨d, hd, hdl⟩ := List.mem_filterMap.mp hl
    obtain ⟨i, hi, rfl⟩ := List.mem_iff_getElem.mp hd
    have hmem : (source[i], i) ∈ source.zipIdx := by
      simp [List.mem_zipIdx_iff_getElem?]
    obtain ⟨n, hn, -, a, ha, hal⟩ := exists_first hmem hdl
    have hkept : n.1 ∈ kept source := List.mem_map.mpr ⟨n, hn, rfl⟩
    exact ⟨a, List.mem_filterMap.mpr ⟨n.1, hkept, ha⟩, Region.isParentOf_trans hal hparent⟩

/-- The regions known after collecting what is kept cover a location when any fault does. -/
theorem isIgnored_kept (source : List Diagnostic) (target : Report) (region : Region) :
    (collect (kept source) target false).1.isIgnored region =
      (collect source target false).1.isIgnored region := by
  rw [Bool.eq_iff_iff, (gathered_all (kept source) target).isIgnored_iff,
    (gathered_all source target).isIgnored_iff, exists_kept_iff]

/-- Collapsing collects exactly what is kept. -/
theorem collect_collapse (source : List Diagnostic) (target : Report) :
    collect source target true = collect (kept source) target false := by
  induction source using List.reverseRecOn with
  | nil => rfl
  | append_singleton source d ih =>
    have hstep : collect (source ++ [d]) target true =
        collectStep true (collect (kept source) target false) d := by
      rw [← ih]
      exact List.foldl_concat ..
    have hkeep : collect (kept source ++ [d]) target false =
        collectStep false (collect (kept source) target false) d :=
      List.foldl_concat ..
    rw [hstep, kept_concat]
    cases hd : d.failedAt with
    | none =>
      rw [repeats_of_none hd, if_neg Bool.false_ne_true, hkeep, collectStep_of_none _ _ hd,
        collectStep_of_none _ _ hd]
    | some l =>
      -- the step looks at the kept faults only; they cover what all earlier faults cover
      have hrepeats : (collect (kept source) target false).1.isIgnored (.location l) =
          d.repeats source := by
        rw [isIgnored_kept, repeats_of_some hd, Bool.eq_iff_iff,
          (gathered_all source target).isIgnored_iff, List.any_eq_true]
        rfl
      rw [collectStep_of_some _ _ hd, hrepeats, Bool.true_and]
      cases d.repeats source with
      | true => simp
      | false => simp [hkeep, collectStep_of_some _ _ hd]

/-- What an empty target took of the kept messages has nothing to collapse. -/
theorem kept_taken (source : List Diagnostic) (level : Severity) :
    kept ((⟨level, []⟩ : Report).logAll (kept source)).messages =
      ((⟨level, []⟩ : Report).logAll (kept source)).messages := by
  rw [Report.logAll_eq, List.nil_append]
  exact kept_eq_self ((pairwise_kept source).filter _)

/-- Collapsing is exact. Collecting hands the target the messages, as far as they reach its
threshold, and returns the faults among them; collapsing leaves out exactly what repeats a fault
before it, kept or dropped. So each fault has a kept one at or above it and no later, no kept one
lies at or under an earlier one, what an empty target took is not collapsed further, and the
regions that are ignored are the same. -/
theorem collapse_exact (source : List Diagnostic) (target : Report) :
    (collect source target false).2 =
      ⟨target.level, target.messages ++ source.filter (·.level.reaches target.level)⟩ ∧
    (collect source target false).1.report = ⟨.debug, source.filter (·.failedAt.isSome)⟩ ∧
    kept source =
      (source.zipIdx.filter fun m => !m.1.repeats (source.take m.2)).map Prod.fst ∧
    (collect source target true).2 =
      ⟨target.level, target.messages ++ (kept source).filter (·.level.reaches target.level)⟩ ∧
    (collect source target true).1.report = ⟨.debug, (kept source).filter (·.failedAt.isSome)⟩ ∧
    (∀ m ∈ source.zipIdx, ∀ l, m.1.failedAt = some l →
      ∃ n ∈ firsts source, n.2 ≤ m.2 ∧ ∃ l', n.1.failedAt = some l' ∧ l'.isParentOf l = true) ∧
    (kept source).Pairwise (fun c d =>
      ∀ l l', c.failedAt = some l → d.failedAt = some l' → l.isParentOf l' = false) ∧
    (∀ level, let taken := (collect source ⟨level, []⟩ true).2
      (collect taken.messages ⟨level, []⟩ true).2 = taken ∧
      ∀ other, collect taken.messages other true = collect taken.messages other false) ∧
    ∀ region, (collect source target true).1.isIgnored region =
      (collect source target false).1.isIgnored region := by
  have hall := gathered_all source target
  have hkept := gathered_all (kept source) target
  rw [collect_collapse]
  refine ⟨by rw [hall.target, Report.logAll_eq], hall.faults, rfl,
    by rw [hkept.target, Report.logAll_eq], hkept.faults, fun m hm l hl => exists_first hm hl,
    ?_, ?_, isIgnored_kept source target⟩
  · refine (pairwise_kept source).imp ?_
    intro c d h l l' hc hd
    rw [repeats_of_some hd] at h
    simpa [hc] using h
  · intro level
    have htaken : (collect source ⟨level, []⟩ true).2 =
        (⟨level, []⟩ : Report).logAll (kept source) := by
      rw [collect_collapse, collect_all]
    simp only [htaken]
    refine ⟨?_, fun other => by rw [collect_collapse, kept_taken]⟩
    rw [collect_collapse, kept_taken, collect_all]
    exact Report.logAll_apart ⟨level, []⟩ (kept source)

end FaultReport

end Conform
