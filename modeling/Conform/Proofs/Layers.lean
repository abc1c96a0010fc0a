import Conform.Config.Load
import Conform.Proofs.Answer
import Conform.Proofs.Rearranged

/-!
Layers of a configuration. Laying one over another, or setting what a path names, keeps names
distinct; and of every leaf it is known which layer it comes from.
-/
namespace Conform.Config

open Value

/-- What a configuration has as a member of a section. -/
def leafAt (c : Members) (s k : String) : Option Value :=
  Members.get? (sectionOf (c.get? s)) k

theorem leafAt_of_get? {c ms : Members} {s : String} (h : c.get? s = some (.obj ms)) (k : String) :
    leafAt c s k = Members.get? ms k := by
  rw [leafAt, h]
  rfl

section
variable {c base upper : Members} {v : Value}

theorem distinct_ordered (h : (Value.obj c).Distinct) : (Value.obj (ordered c)).Distinct :=
  (rearranged_ordered h).symm.distinct

theorem distinct_sectionOf {old : Option Value} (h : ∀ x, old = some x → x.Distinct) :
    (Value.obj (sectionOf old)).Distinct := by
  unfold sectionOf
  split
  · exact h _ rfl
  · exact .empty

theorem distinct_overlay_of {ms : Members}
    (h : ∀ m ∈ ms, ∀ old, (∀ x, old = some x → x.Distinct) → (overlaid old m.2).Distinct)
    (hbase : (Value.obj base).Distinct) : (Value.obj (overlay base ms)).Distinct := by
  induction ms generalizing base with
  | nil => exact hbase
  | cons m ms ih =>
    obtain ⟨hm, hms⟩ := List.forall_mem_cons.mp h
    exact ih hms (hbase.put (hm _ fun x hx => hbase.of_get? hx))

theorem distinct_overlaid (hv : v.Distinct) :
    ∀ old, (∀ x, old = some x → x.Distinct) → (overlaid old v).Distinct := by
  induction hv with
  | @leaf v h =>
    intro old _
    cases v with
    | obj => cases h
    | _ => exact .leaf h
  | list h => exact fun _ _ => .list h
  | object _ _ ih => exact fun old hold => distinct_overlay_of ih (distinct_sectionOf hold)

theorem distinct_merge (hbase : (Value.obj base).Distinct) (hupper : (Value.obj upper).Distinct) :
    (Value.obj (merge base upper)).Distinct :=
  distinct_overlay_of (fun _ hm => distinct_overlaid ((distinct_ordered hupper).of_mem hm))
    (distinct_ordered hbase)

theorem distinct_setAt {path : List String} (hv : v.Distinct) (h : (Value.obj c).Distinct) :
    (Value.obj (setAt path v c)).Distinct := by
  induction path generalizing c with
  | nil => exact h
  | cons k path ih =>
    cases path with
    | nil => exact h.put hv
    | cons _ _ => exact h.put (ih (distinct_sectionOf fun x hx => h.of_get? hx))

/-- Variables stand for texts, numbers and truth values. -/
theorem isLeaf_coerced {old : Value} {path : List String} {text : String}
    (h : coerced old path text = .ok (some v)) : v.isLeaf := by
  unfold coerced at h
  dsimp only at h
  split at h
  · obtain rfl := Option.some.inj (Except.ok.inj h)
    rfl
  · split at h
    · obtain rfl := Option.some.inj (Except.ok.inj h)
      rfl
    · cases h
  · split at h
    · obtain rfl := Option.some.inj (Except.ok.inj h)
      rfl
    · split at h
      · obtain rfl := Option.some.inj (Except.ok.inj h)
        rfl
      · cases h
  · cases h

/-- The value of a leaf's variable, if it is set. -/
def variableValue (vars : List (String × String)) (path : List String) (old : Value) :
    Except Fault (Option Value) :=
  match vars.lookup (variableName path) with
  | none => .ok none
  | some text => coerced old path text

theorem isLeaf_variableValue {vars : List (String × String)} {path : List String} {old : Value}
    (h : variableValue vars path old = .ok (some v)) : v.isLeaf := by
  unfold variableValue at h
  split at h
  · cases h
  · exact isLeaf_coerced h

theorem addVariable_eq (vars : List (String × String)) (layer : Members)
    (leaf : List String × Value) : addVariable vars layer leaf =
      (variableValue vars leaf.1 leaf.2).map fun o =>
        (o.map fun v => setAt leaf.1 v layer).getD layer := by
  unfold addVariable variableValue
  cases vars.lookup (variableName leaf.1) with
  | none => rfl
  | some text =>
    cases ho : coerced leaf.2 leaf.1 text with
    | error f => simp only [ho]; rfl
    | ok o => cases o <;> simp only [ho] <;> rfl

theorem distinct_addVariable {vars : List (String × String)} {layer layer' : Members}
    {leaf : List String × Value} (h : (Value.obj layer).Distinct)
    (hadd : addVariable vars layer leaf = .ok layer') : (Value.obj layer').Distinct := by
  rw [addVariable_eq] at hadd
  obtain ⟨o, ho, rfl⟩ := Answer.map_ok.mp hadd
  cases o with
  | none => exact h
  | some v => exact distinct_setAt (.leaf (isLeaf_variableValue ho)) h

theorem distinct_variableLayer {vars : List (String × String)} {layer : Members}
    (h : variableLayer c vars = .ok layer) : (Value.obj layer).Distinct :=
  Answer.foldlM_ok (P := fun layer => (Value.obj layer).Distinct)
    (fun _ _ _ hlayer _ hadd => distinct_addVariable hlayer hadd) .empty h

theorem addOverride_ok {layer layer' : Members} {o : String × Value} :
    addOverride layer o = .ok layer' ↔ overridePath o.1 ≠ [] ∧
      layer' = setAt (overridePath o.1) (orderedValue o.2) layer := by
  unfold addOverride
  split
  · rename_i hpath
    exact iff_of_false (by simp) fun h => h.1 hpath
  · rename_i path hpath
    rw [and_iff_right hpath, Except.ok.injEq, eq_comm]

theorem distinct_overrideLayer {overrides layer : Members} (ho : (Value.obj overrides).Distinct)
    (h : overrideLayer overrides = .ok layer) : (Value.obj layer).Distinct := by
  refine Answer.foldlM_ok (P := fun layer => (Value.obj layer).Distinct) ?_ .empty h
  intro layer o layer' hlayer hmem hadd
  obtain ⟨_, rfl⟩ := addOverride_ok.mp hadd
  have hvalue : o.2.Distinct := ho.of_mem ((Members.sorted_perm overrides).mem_iff.mp hmem)
  exact distinct_setAt (rearranged_orderedValue hvalue).symm.distinct hlayer

/-- The path of the log file is put in full if it is there and not empty. -/
theorem withLogPath_cases (s : Surroundings) (directory : Path) (c : Members) :
    (withLogPath s directory c = .ok c ∧ ∀ text,
      leafAt c "observability" "log_file" = some (.str text) → text.isEmpty) ∨
    ∃ ms text, c.get? "observability" = some (.obj ms) ∧
      Members.get? ms "log_file" = some (.str text) ∧ text.isEmpty = false ∧
      withLogPath s directory c = (logPath s directory text).map fun p =>
        c.put "observability" (.obj (Members.put ms "log_file" (.str p.text))) := by
  unfold withLogPath
  cases hs : c.get? "observability" with
  | none =>
    refine .inl ⟨rfl, ?_⟩
    intro text htext
    rw [leafAt, hs] at htext
    cases htext
  | some x =>
    cases x with
    | obj ms =>
      simp only [leafAt_of_get? hs]
      cases hk : Members.get? ms "log_file" with
      | none =>
        refine .inl ⟨rfl, ?_⟩
        intro text htext
        cases htext
      | some y =>
        cases y with
        | str text =>
          cases hempty : text.isEmpty with
          | true =>
            refine .inl ⟨if_pos hempty, ?_⟩
            intro text' htext
            obtain rfl := Value.str.inj (Option.some.inj htext)
            exact hempty
          | false => exact .inr ⟨ms, text, rfl, hk, hempty, if_neg (by simp [hempty])⟩
        | _ =>
          refine .inl ⟨rfl, ?_⟩
          intro text htext
          cases htext
    | _ =>
      refine .inl ⟨rfl, ?_⟩
      intro text htext
      rw [leafAt, hs] at htext
      cases htext

/-- What a leaf is once the path of the log file is put in full. -/
def Shows (s : Surroundings) (directory : Path) (section_ k : String) (x y : Value) : Prop :=
  y = x ∨ section_ = "observability" ∧ k = "log_file" ∧
    ∃ text p, x = .str text ∧ text.isEmpty = false ∧ logPath s directory text = .ok p ∧
      y = .str p.text

theorem distinct_withLogPath {s : Surroundings} {directory : Path} {c' : Members}
    (h : (Value.obj c).Distinct) (hc : withLogPath s directory c = .ok c') :
    (Value.obj c').Distinct := by
  rcases withLogPath_cases s directory c with ⟨hsame, _⟩ | ⟨ms, text, hs, _, _, hput⟩
  · obtain rfl := Except.ok.inj (hsame.symm.trans hc)
    exact h
  · obtain ⟨p, _, rfl⟩ := Answer.map_ok.mp (hput.symm.trans hc)
    exact h.put ((h.of_get? hs).put (.leaf rfl))

/-- What a name finds after members are laid over others. -/
theorem get?_overlay {ms : Members} (hn : (Members.keys ms).Nodup) (k : String) :
    (overlay base ms).get? k =
      ((ms.get? k).map fun v => overlaid (base.get? k) v).or (base.get? k) := by
  induction ms generalizing base with
  | nil => rfl
  | cons m ms ih =>
    obtain ⟨hfresh, hn⟩ := List.nodup_cons.mp hn
    rw [overlay, ih hn, Members.get?_put_eq, Members.get?_cons]
    by_cases hk : m.1 = k
    · subst hk
      have hnone : Members.get? ms m.1 = none := Members.get?_eq_none_iff.mpr hfresh
      simp only [hnone, if_pos]
      rfl
    · rw [if_neg hk, if_neg (Ne.symm hk)]

theorem get?_merge (hbase : (Value.obj base).Distinct) (hupper : (Value.obj upper).Distinct)
    (k : String) : (merge base upper).get? k =
      ((upper.get? k).map fun v =>
        overlaid ((base.get? k).map orderedValue) (orderedValue v)).or
          ((base.get? k).map orderedValue) := by
  rw [merge, get?_overlay (distinct_ordered hupper).nodup, get?_ordered hupper.nodup,
    get?_ordered hbase.nodup, Option.map_map]
  rfl

theorem leafAt_ordered (h : (Value.obj c).Distinct) (s k : String) :
    leafAt (ordered c) s k = (leafAt c s k).map orderedValue := by
  unfold leafAt
  rw [get?_ordered h.nodup]
  cases hs : c.get? s with
  | none => rfl
  | some x =>
    cases x with
    | obj ms => exact get?_ordered (h.of_get? hs).nodup k
    | _ => rfl

/-- A section of the upper layer is joined to the one below; one that it lacks stays. -/
theorem get?_merge_section (hbase : (Value.obj base).Distinct)
    (hupper : (Value.obj upper).Distinct) {s : String}
    (h : (∃ ms, upper.get? s = some (.obj ms)) ∨
      upper.get? s = none ∧ ∃ ms, base.get? s = some (.obj ms)) :
    ∃ ns, (merge base upper).get? s = some (.obj ns) ∧ ∀ k, Members.get? ns k =
      ((leafAt upper s k).map fun v =>
        overlaid ((leafAt base s k).map orderedValue) (orderedValue v)).or
          ((leafAt base s k).map orderedValue) := by
  have hleaf (k : String) : Members.get? (sectionOf ((base.get? s).map orderedValue)) k =
      (leafAt base s k).map orderedValue := by
    rw [← get?_ordered hbase.nodup, ← leafAt_ordered hbase]
    rfl
  rcases h with ⟨ms, hs⟩ | ⟨hs, ms, hms⟩
  · have hd := hupper.of_get? hs
    refine ⟨overlay (sectionOf ((base.get? s).map orderedValue)) (ordered ms), ?_, ?_⟩
    · rw [get?_merge hbase hupper, hs]
      rfl
    · intro k
      rw [get?_overlay (distinct_ordered hd).nodup, hleaf, get?_ordered hd.nodup, Option.map_map,
        leafAt_of_get? hs]
      rfl
  · refine ⟨ordered ms, ?_, ?_⟩
    · rw [get?_merge hbase hupper, hs, hms]
      rfl
    · intro k
      have hnone : leafAt upper s k = none := by
        rw [leafAt, hs]
        rfl
      rw [← hleaf, hms, hnone]
      rfl

theorem isLeaf_orderedValue (v : Value) : (orderedValue v).isLeaf = v.isLeaf := by
  cases v <;> rfl

theorem orderedValue_of_isLeaf (h : v.isLeaf) : orderedValue v = v := by
  cases v with
  | obj => cases h
  | _ => rfl

theorem isLeaf_overlaid (old : Option Value) (v : Value) : (overlaid old v).isLeaf = v.isLeaf := by
  cases v <;> rfl

theorem overlaid_of_isLeaf {old : Option Value} (h : v.isLeaf) : overlaid old v = v := by
  cases v with
  | obj => cases h
  | _ => rfl

theorem section_of_merge (hbase : (Value.obj base).Distinct)
    (hupper : (Value.obj upper).Distinct) {s : String} {ns : Members}
    (h : (merge base upper).get? s = some (.obj ns)) :
    (∃ ms, upper.get? s = some (.obj ms)) ∨
      upper.get? s = none ∧ ∃ ms, base.get? s = some (.obj ms) := by
  rw [get?_merge hbase hupper] at h
  cases hs : upper.get? s with
  | none =>
    refine .inr ⟨rfl, ?_⟩
    rw [hs] at h
    obtain ⟨x, hx, hobj⟩ := Option.map_eq_some_iff.mp h
    cases x with
    | obj ms => exact ⟨ms, hx⟩
    | _ => cases hobj
  | some x =>
    rw [hs] at h
    cases x with
    | obj ms => exact .inl ⟨ms, rfl⟩
    | _ => cases h

/-- A leaf of joined layers comes from the upper one if it is there. -/
theorem leafAt_merge (hbase : (Value.obj base).Distinct) (hupper : (Value.obj upper).Distinct)
    {s k : String} {ns : Members} (hs : (merge base upper).get? s = some (.obj ns)) {x : Value}
    (hleaf : x.isLeaf) : leafAt (merge base upper) s k = some x ↔
      (leafAt upper s k).or (leafAt base s k) = some x := by
  obtain ⟨ns', hs', hget⟩ :=
    get?_merge_section hbase hupper (section_of_merge hbase hupper hs)
  have hordered (y : Value) : orderedValue y = x ↔ y = x := by
    constructor
    · rintro rfl
      rw [isLeaf_orderedValue] at hleaf
      exact (orderedValue_of_isLeaf hleaf).symm
    · rintro rfl
      exact orderedValue_of_isLeaf hleaf
  have hoverlaid (old : Option Value) (y : Value) : overlaid old y = x ↔ y = x := by
    constructor
    · rintro rfl
      rw [isLeaf_overlaid] at hleaf
      exact (overlaid_of_isLeaf hleaf).symm
    · rintro rfl
      exact overlaid_of_isLeaf hleaf
  rw [leafAt_of_get? hs', hget]
  cases leafAt upper s k with
  | none => cases leafAt base s k <;> simp [hordered]
  | some y => simp [hordered, hoverlaid]

theorem merge_nil (c : Members) : merge c [] = ordered c := by
  simp [merge, ordered, orderedMembers, Members.sorted, overlay]

theorem leafAt_put (c : Members) (s s' k : String) (v : Value) :
    leafAt (c.put s' v) s k =
      if s' = s then Members.get? (sectionOf (some v)) k else leafAt c s k := by
  unfold leafAt
  rw [Members.get?_put_eq]
  split <;> rfl

theorem setAt_pair (c : Members) (s k : String) (v : Value) :
    setAt [s, k] v c = c.put s (.obj (Members.put (sectionOf (c.get? s)) k v)) := rfl

theorem leafAt_setAt (c : Members) (s k s' k' : String) (v : Value) :
    leafAt (setAt [s', k'] v c) s k =
      if s' = s ∧ k' = k then some v else leafAt c s k := by
  rw [setAt_pair, leafAt_put]
  by_cases hs : s' = s
  · subst hs
    simp only [if_pos, sectionOf, Members.get?_put_eq, true_and]
    rfl
  · rw [if_neg hs, if_neg fun h => hs h.1]

/-- No leaf but the path of the log file changes when it is put in full. -/
theorem leafAt_withLogPath {sur : Surroundings} {directory : Path} {c' : Members} {s : String}
    {ms : Members} (hc : withLogPath sur directory c = .ok c') (hs : c'.get? s = some (.obj ms)) :
    (∃ ns, c.get? s = some (.obj ns)) ∧ ∀ k y, leafAt c' s k = some y →
      ∃ x, leafAt c s k = some x ∧ Shows sur directory s k x y := by
  rcases withLogPath_cases sur directory c with ⟨hsame, _⟩ | ⟨ns, text, hns, htext, hempty, hput⟩
  · obtain rfl := Except.ok.inj (hsame.symm.trans hc)
    exact ⟨⟨ms, hs⟩, fun k y hy => ⟨y, hy, .inl rfl⟩⟩
  · obtain ⟨p, hp, rfl⟩ := Answer.map_ok.mp (hput.symm.trans hc)
    rw [Members.get?_put_eq] at hs
    by_cases hsection : "observability" = s
    · subst hsection
      refine ⟨⟨ns, hns⟩, ?_⟩
      intro k y hy
      rw [leafAt_put, if_pos rfl] at hy
      change Members.get? (Members.put ns "log_file" (.str p.text)) k = some y at hy
      rw [Members.get?_put_eq] at hy
      by_cases hk : "log_file" = k
      · subst hk
        rw [if_pos rfl] at hy
        refine ⟨.str text, (leafAt_of_get? hns _).trans htext, .inr ⟨rfl, rfl, text, p, rfl, hempty,
          hp, (Option.some.inj hy).symm⟩⟩
      · rw [if_neg hk] at hy
        exact ⟨y, (leafAt_of_get? hns k).trans hy, .inl rfl⟩
    · rw [if_neg hsection] at hs
      refine ⟨⟨ms, hs⟩, ?_⟩
      intro k y hy
      rw [leafAt_put, if_neg hsection] at hy
      exact ⟨y, hy, .inl rfl⟩

end

end Conform.Config
