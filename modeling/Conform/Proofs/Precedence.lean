import Conform.Proofs.Intended
import Conform.Proofs.Loading

/-!
Which layer a leaf comes from. An override that names it decides, unless a later one takes the
place of the whole section; then its variable, the file and the defaults, in this order.
-/
namespace Conform.Config

open Value

section
variable {c layer layer' : Members} {s k : String} {b v x : Value}
  {vars : List (String × String)}

/-- Whether everything that is there is a section. -/
def HoldsSections (c : Members) : Prop := ∀ s x, c.get? s = some x → ∃ ms, x = .obj ms

/-- A variable sets its own leaf only. -/
theorem leafAt_addVariable {leaf : List String × Value} {s' k' : String}
    (hpath : leaf.1 = [s', k']) (hadd : addVariable vars layer leaf = .ok layer') :
    ∃ o, variableValue vars leaf.1 leaf.2 = .ok o ∧ ∀ s k, leafAt layer' s k =
      if s' = s ∧ k' = k then o.or (leafAt layer s k) else leafAt layer s k := by
  rw [addVariable_eq] at hadd
  obtain ⟨o, ho, rfl⟩ := Answer.map_ok.mp hadd
  refine ⟨o, ho, ?_⟩
  intro s k
  cases o with
  | none => simp
  | some v =>
    rw [Option.map_some, Option.getD_some, hpath, leafAt_setAt]
    rfl

/-- After the variables of some leaves of a configuration are read, each leaf has its own. -/
theorem leafAt_addVariables {leaves : List (List String × Value)}
    (hleaves : ∀ p v, (p, v) ∈ leaves → ∃ s k, p = [s, k] ∧ leafAt c s k = some v)
    (hb : leafAt c s k = some b) (h : leaves.foldlM (addVariable vars) layer = .ok layer') :
    (([s, k], b) ∉ leaves → leafAt layer' s k = leafAt layer s k) ∧
    (([s, k], b) ∈ leaves → ∃ o, variableValue vars [s, k] b = .ok o ∧
      leafAt layer' s k = o.or (leafAt layer s k)) := by
  induction leaves generalizing layer with
  | nil =>
    obtain rfl := Except.ok.inj h
    exact ⟨fun _ => rfl, fun h => by cases h⟩
  | cons leaf leaves ih =>
    rw [List.foldlM_cons] at h
    obtain ⟨next, hadd, h⟩ := Answer.do_ok.mp h
    obtain ⟨hout, hin⟩ := ih (fun p v hp => hleaves p v (List.mem_cons_of_mem _ hp)) h
    obtain ⟨p, v⟩ := leaf
    obtain ⟨s', k', rfl, hv⟩ := hleaves p v List.mem_cons_self
    obtain ⟨o, ho, hnext⟩ := leafAt_addVariable rfl hadd
    have hnext := hnext s k
    by_cases hsame : s' = s ∧ k' = k
    · obtain ⟨rfl, rfl⟩ := hsame
      obtain rfl := Option.some.inj (hv.symm.trans hb)
      rw [if_pos ⟨rfl, rfl⟩] at hnext
      refine ⟨fun hnot => absurd List.mem_cons_self hnot, fun _ => ⟨o, ho, ?_⟩⟩
      -- once more would change nothing
      by_cases hmem : ([s', k'], v) ∈ leaves
      · obtain ⟨o', ho', hlayer⟩ := hin hmem
        obtain rfl := Except.ok.inj (ho.symm.trans ho')
        rw [hlayer, hnext]
        cases o <;> rfl
      · rw [hout hmem, hnext]
    · rw [if_neg hsame] at hnext
      have hne : ([s, k], b) ≠ ([s', k'], v) := by
        rintro ⟨⟩
        exact hsame ⟨rfl, rfl⟩
      simp only [← hnext, List.mem_cons, hne, false_or]
      exact ⟨hout, hin⟩

theorem mem_leaves {path p : List String} {ms : Members} :
    (p, v) ∈ leaves path ms ↔ ∃ m ∈ ms, (p, v) ∈ leavesOf (path ++ [m.1]) m.2 := by
  induction ms with
  | nil => simp [leaves]
  | cons m ms ih => simp [leaves, ih]

theorem leavesOf_of_isLeaf {path : List String} (hv : v.isLeaf) :
    leavesOf path v = [(path, v)] := by
  cases v with
  | obj => cases hv
  | _ => rfl

theorem isLeaf_of_admits {r : Range} (h : r.Admits v) : v.isLeaf := by
  cases r with
  | integer =>
    obtain ⟨n, rfl, _⟩ := h
    rfl
  | flag =>
    obtain ⟨b, rfl⟩ := h
    rfl
  | word =>
    obtain ⟨word, _, rfl⟩ := h
    rfl
  | text =>
    obtain ⟨s, rfl⟩ := h
    rfl

/-- The leaves of a configuration that complies, with the paths to them. -/
theorem mem_leaves_of_complies (hd : (Value.obj c).Distinct) (h : Complies c) {p : List String} :
    (p, v) ∈ leaves [] (ordered c) ↔ ∃ s k, p = [s, k] ∧ leafAt c s k = some v := by
  have hsection {s : String} {x : Value} (hx : c.get? s = some x) :
      ∃ ms, x = .obj ms ∧ ∀ k y, Members.get? ms k = some y → y.isLeaf := by
    obtain ⟨_, _, ms, rfl, hleaves⟩ := some_of_rel_right ((complies_iff hd).mp h s) hx
    refine ⟨ms, rfl, ?_⟩
    intro k y hy
    obtain ⟨_, _, hadmits⟩ := some_of_rel_right (hleaves k) hy
    exact isLeaf_of_admits hadmits
  simp only [mem_leaves, List.nil_append]
  constructor
  · rintro ⟨⟨s, x'⟩, hs, hp⟩
    rw [Members.mem_iff_get? (distinct_ordered hd).nodup, get?_ordered hd.nodup] at hs
    obtain ⟨x, hx, rfl⟩ := Option.map_eq_some_iff.mp hs
    obtain ⟨ms, rfl, hleaves⟩ := hsection hx
    have hms := hd.of_get? hx
    obtain ⟨⟨k, y'⟩, hk, hp⟩ := mem_leaves.mp hp
    change (k, y') ∈ ordered ms at hk
    rw [Members.mem_iff_get? (distinct_ordered hms).nodup, get?_ordered hms.nodup] at hk
    obtain ⟨y, hy, rfl⟩ := Option.map_eq_some_iff.mp hk
    have hleaf := hleaves k y hy
    rw [orderedValue_of_isLeaf hleaf, leavesOf_of_isLeaf hleaf, List.mem_singleton] at hp
    obtain ⟨rfl, rfl⟩ := Prod.mk.inj hp
    exact ⟨s, k, rfl, by rw [leafAt_of_get? hx, hy]⟩
  · rintro ⟨s, k, rfl, hv⟩
    cases hx : c.get? s with
    | none =>
      rw [leafAt, hx] at hv
      cases hv
    | some x =>
      obtain ⟨ms, rfl, hleaves⟩ := hsection hx
      rw [leafAt_of_get? hx] at hv
      have hms := hd.of_get? hx
      have hleaf := hleaves k v hv
      refine ⟨(s, orderedValue (.obj ms)), ?_, ?_⟩
      · rw [Members.mem_iff_get? (distinct_ordered hd).nodup, get?_ordered hd.nodup, hx]
        rfl
      · refine mem_leaves.mpr ⟨(k, v), ?_, ?_⟩
        · change (k, v) ∈ ordered ms
          rw [Members.mem_iff_get? (distinct_ordered hms).nodup, get?_ordered hms.nodup, hv,
            Option.map_some, orderedValue_of_isLeaf hleaf]
        · rw [leavesOf_of_isLeaf hleaf]
          exact List.mem_singleton_self _

/-- The layer of the variables has the value of each leaf's variable that is set. -/
theorem leafAt_variableLayer (hd : (Value.obj c).Distinct) (h : Complies c)
    (hlayer : variableLayer c vars = .ok layer) (hb : leafAt c s k = some b) :
    variableValue vars [s, k] b = .ok (leafAt layer s k) := by
  have hmem {p : List String} {v : Value} := mem_leaves_of_complies (p := p) (v := v) hd h
  obtain ⟨o, ho, hleaf⟩ := (leafAt_addVariables
    (fun p v hp => hmem.mp (List.mem_mergeSort.mp hp)) hb hlayer).2
    (List.mem_mergeSort.mpr (hmem.mpr ⟨s, k, rfl, hb⟩))
  rw [ho, hleaf]
  cases o <;> rfl

/-- Variables make sections only. -/
theorem holdsSections_variableLayer (hd : (Value.obj c).Distinct) (h : Complies c)
    (hlayer : variableLayer c vars = .ok layer) : HoldsSections layer := by
  refine Answer.foldlM_ok (P := HoldsSections) ?_ ?_ hlayer
  · rintro layer ⟨p, v⟩ layer' hsections hp hadd
    rw [List.mem_mergeSort] at hp
    obtain ⟨s, k, rfl, _⟩ := (mem_leaves_of_complies hd h).mp hp
    rw [addVariable_eq] at hadd
    obtain ⟨o, _, rfl⟩ := Answer.map_ok.mp hadd
    cases o with
    | none => exact hsections
    | some v =>
      intro s' x hx
      rw [Option.map_some, Option.getD_some, setAt_pair, Members.get?_put_eq] at hx
      split at hx
      · exact ⟨_, (Option.some.inj hx).symm⟩
      · exact hsections s' x hx
  · intro s x hx
    cases hx

end

section
variable {layer layer' : Members} {s k : String} {overrides : Members}

/-- The value that an override gives a leaf by naming it, or by naming its section. -/
def given (o : String × Value) (s k : String) : Option Value :=
  if overridePath o.1 = [s, k] then some o.2
  else if overridePath o.1 = [s] then Members.get? (sectionOf (some o.2)) k
  else none

/-- Whether an override changes a leaf. -/
def Touches (o : String × Value) (s k : String) : Prop :=
  overridePath o.1 = [s] ∨ [s, k] <+: overridePath o.1

/-- Whether the overrides that give a leaf a value all stand before one that takes the place of the
section and does not give it any. -/
def Lost (overrides : Members) (s k : String) : Prop :=
  ∃ pre o post, overrides.sorted = pre ++ o :: post ∧ overridePath o.1 = [s] ∧
    given o s k = none ∧ ∀ o' ∈ post, given o' s k = none

/-- What a leaf is after an override changed it: what it is given, or a section. -/
def Overridden (layer : Members) (o : String × Value) (s k : String) : Prop :=
  (overridePath o.1 = [s] ∨ overridePath o.1 = [s, k]) ∧
      leafAt layer s k = (given o s k).map orderedValue ∨
    ∃ t, leafAt layer s k = some (.obj t)

theorem overridden_of_touches {o : String × Value} (hd : o.2.Distinct)
    (hadd : addOverride layer o = .ok layer') (h : Touches o s k) : Overridden layer' o s k := by
  obtain ⟨_, rfl⟩ := addOverride_ok.mp hadd
  rcases h with hpath | ⟨rest, hpath⟩
  · refine .inl ⟨.inl hpath, ?_⟩
    have hne : overridePath o.1 ≠ [s, k] := by simp [hpath]
    rw [given, if_neg hne, if_pos hpath, hpath]
    change leafAt (layer.put s _) s k = _
    rw [leafAt_put, if_pos rfl]
    cases hv : o.2 with
    | obj ms =>
      rw [hv] at hd
      exact get?_ordered hd.nodup k
    | _ => rfl
  · cases rest with
    | nil =>
      rw [List.append_nil] at hpath
      refine .inl ⟨.inr hpath.symm, ?_⟩
      rw [given, if_pos hpath.symm, ← hpath, leafAt_setAt, if_pos ⟨rfl, rfl⟩]
      rfl
    | cons k' rest =>
      refine .inr ?_
      rw [← hpath]
      change ∃ t, leafAt (layer.put s (.obj (Members.put _ k (.obj _)))) s k = some (.obj t)
      rw [leafAt_put, if_pos rfl]
      exact ⟨_, Members.get?_put _ _ _⟩

theorem leafAt_of_not_touches {o : String × Value} (hadd : addOverride layer o = .ok layer')
    (h : ¬ Touches o s k) : leafAt layer' s k = leafAt layer s k := by
  obtain ⟨hne, rfl⟩ := addOverride_ok.mp hadd
  rw [Touches, not_or] at h
  obtain ⟨hsection, hleaf⟩ := h
  match hpath : overridePath o.1 with
  | [] => exact absurd hpath hne
  | [s'] =>
    change leafAt (layer.put s' _) s k = _
    rw [leafAt_put, if_neg]
    rintro rfl
    exact hsection hpath
  | [s', k'] =>
    rw [leafAt_setAt, if_neg]
    rintro ⟨rfl, rfl⟩
    exact hleaf (hpath ▸ List.prefix_rfl)
  | s' :: k' :: k'' :: rest =>
    change leafAt (layer.put s' (.obj (Members.put _ k' (.obj _)))) s k = _
    rw [leafAt_put]
    split
    · rename_i hs
      subst hs
      have hk : k' ≠ k := by
        rintro rfl
        exact hleaf (hpath ▸ ⟨k'' :: rest, rfl⟩)
      exact Members.get?_put_of_ne _ _ hk
    · rfl

/-- The last override that changes a leaf says what it is. -/
theorem leafAt_overrides {os : Members} (hd : ∀ o ∈ os, o.2.Distinct)
    (h : os.foldlM addOverride layer = .ok layer') (s k : String) :
    (leafAt layer' s k = leafAt layer s k ∧ ∀ o ∈ os, ¬ Touches o s k) ∨
    ∃ pre o post, os = pre ++ o :: post ∧ Touches o s k ∧ (∀ o' ∈ post, ¬ Touches o' s k) ∧
      Overridden layer' o s k := by
  induction os generalizing layer with
  | nil =>
    obtain rfl := Except.ok.inj h
    exact .inl ⟨rfl, by simp⟩
  | cons o os ih =>
    rw [List.foldlM_cons] at h
    obtain ⟨next, hadd, h⟩ := Answer.do_ok.mp h
    obtain ⟨ho, hos⟩ := List.forall_mem_cons.mp hd
    rcases ih hos h with ⟨hleaf, hnone⟩ | ⟨pre, o', post, rfl, hrest⟩
    · by_cases htouches : Touches o s k
      · have hoverridden := overridden_of_touches ho hadd htouches
        rw [Overridden, ← hleaf] at hoverridden
        exact .inr ⟨[], o, os, rfl, htouches, hnone, hoverridden⟩
      · refine .inl ⟨hleaf.trans (leafAt_of_not_touches hadd htouches), ?_⟩
        exact List.forall_mem_cons.mpr ⟨htouches, hnone⟩
    · exact .inr ⟨o :: pre, o', post, rfl, hrest⟩

theorem touches_of_given {o : String × Value} {v : Value} (h : given o s k = some v) :
    Touches o s k := by
  unfold given at h
  split at h
  · rename_i hpath
    exact .inr (hpath ▸ List.prefix_rfl)
  · split at h
    · rename_i hpath
      exact .inl hpath
    · cases h

/-- A value that the last override to change a leaf gives is not lost. -/
theorem not_lost {pre post : Members} {o : String × Value} {v : Value}
    (hsorted : overrides.sorted = pre ++ o :: post) (hpost : ∀ o' ∈ post, ¬ Touches o' s k)
    (hgiven : given o s k = some v) : ¬ Lost overrides s k := by
  rintro ⟨pre', o', post', hsorted', hpath, hnone, hpost'⟩
  have hne : o ≠ o' := by
    rintro rfl
    cases hgiven.symm.trans hnone
  -- of two places in one list, one is behind the other
  rcases List.append_eq_append_iff.mp (hsorted.symm.trans hsorted') with
    ⟨between, _, hpost₀⟩ | ⟨between, _, hpost₀⟩
  · cases between with
    | nil => exact hne (List.cons.inj hpost₀).1
    | cons _ between =>
      obtain ⟨_, rfl⟩ := List.cons.inj hpost₀
      exact hpost o' (by simp) (.inl hpath)
  · cases between with
    | nil => exact hne (List.cons.inj hpost₀).1.symm
    | cons _ between =>
      obtain ⟨_, rfl⟩ := List.cons.inj hpost₀
      cases hgiven.symm.trans (hpost' o (by simp))

/-- What the layer of the overrides has for a leaf, if that is no section. -/
theorem leafAt_overrideLayer (ho : (Value.obj overrides).Distinct)
    (h : overrideLayer overrides = .ok layer) (s k : String) :
    (leafAt layer s k = none ∧
      ((∀ o ∈ overrides, given o s k = none) ∨ Lost overrides s k)) ∨
    (∃ o v, o ∈ overrides ∧ given o s k = some v ∧ ¬ Lost overrides s k ∧
      leafAt layer s k = some (orderedValue v)) ∨
    ∃ t, leafAt layer s k = some (.obj t) := by
  have hmem {o : String × Value} : o ∈ overrides.sorted ↔ o ∈ overrides :=
    (Members.sorted_perm overrides).mem_iff
  rcases leafAt_overrides (fun o hmem' => ho.of_mem (hmem.mp hmem')) h s k with
    ⟨hleaf, hnone⟩ | ⟨pre, o, post, hsorted, _, hpost, hoverridden⟩
  · refine .inl ⟨hleaf, .inl ?_⟩
    intro o hmem'
    rw [Option.eq_none_iff_forall_ne_some]
    intro v hv
    exact hnone o (hmem.mpr hmem') (touches_of_given hv)
  · rcases hoverridden with ⟨hpath, hleaf⟩ | hobject
    · cases hgiven : given o s k with
      | none =>
        rw [hgiven] at hleaf
        refine .inl ⟨hleaf, .inr ⟨pre, o, post, hsorted, ?_, hgiven, ?_⟩⟩
        · refine hpath.resolve_right fun hpath => ?_
          rw [given, if_pos hpath] at hgiven
          cases hgiven
        · intro o' ho'
          rw [Option.eq_none_iff_forall_ne_some]
          intro v hv
          exact hpost o' ho' (touches_of_given hv)
      | some v =>
        rw [hgiven] at hleaf
        have hmem' : o ∈ overrides := hmem.mp (hsorted ▸ by simp)
        exact .inr (.inl ⟨o, v, hmem', hgiven, not_lost hsorted hpost hgiven, hleaf⟩)
    · exact .inr (.inr hobject)

end

section
variable {h : Host} {path : Option String} {overrides : Members}
  {vars : Option (List (String × String))} {file : Path} {layer whole : Members} {s k : String}

/-- The value of a leaf before the path of the log file is put in full: what an override gives it,
or else what its variable says, if it is set, or else what the file has, or else the default. -/
inductive Effective (layer : Members) (vars : List (String × String)) (overrides : Members)
    (s k : String) : Value → Prop
  | override {o : String × Value} {v : Value} (hmem : o ∈ overrides)
      (hgiven : given o s k = some v) (hkept : ¬ Lost overrides s k) :
      Effective layer vars overrides s k v
  | below {b : Value} {o : Option Value}
      (hnone : (∀ o ∈ overrides, given o s k = none) ∨ Lost overrides s k)
      (hfile : (leafAt layer s k).or (leafAt defaults s k) = some b)
      (hvariable : variableValue vars [s, k] b = .ok o) :
      Effective layer vars overrides s k (o.getD b)

theorem leaf_of_complies {c : Members} (hd : (Value.obj c).Distinct) (h : Complies c)
    {fs : List (String × Range)} {r : Range} (hs : declared.lookup s = some fs)
    (hr : fs.lookup k = some r) :
    ∃ ms y, c.get? s = some (.obj ms) ∧ leafAt c s k = some y ∧ y.isLeaf := by
  obtain ⟨ms, hms, hleaves⟩ := section_of_complies hd h hs
  obtain ⟨y, hy, hadmits⟩ := some_of_rel (hleaves k) hr
  exact ⟨ms, y, hms, (leafAt_of_get? hms k).trans hy, isLeaf_of_admits hadmits⟩

theorem complies_of_accepted {c cfg : Members} (hd : (Value.obj c).Distinct)
    (hcheck : check (.obj c) = .ok (.accepted cfg)) : Complies cfg := by
  obtain ⟨⟨hcomplies, _⟩, rfl⟩ := (check_accepted_iff hd).mp hcheck
  exact complies_of_rearranged hcomplies (rearranged_ordered hd)

theorem leafAt_of_accepted {c cfg : Members} (hd : (Value.obj c).Distinct)
    (hcheck : check (.obj c) = .ok (.accepted cfg)) {x : Value} (hleaf : x.isLeaf) :
    leafAt cfg s k = some x ↔ leafAt c s k = some x := by
  rw [((check_accepted_iff hd).mp hcheck).2, leafAt_ordered hd, Option.map_eq_some_iff]
  constructor
  · rintro ⟨y, hy, rfl⟩
    rw [isLeaf_orderedValue] at hleaf
    rw [orderedValue_of_isLeaf hleaf]
    exact hy
  · intro hx
    exact ⟨x, hx, orderedValue_of_isLeaf hleaf⟩

/-- Variables join the sections of a configuration that complies. -/
theorem exists_section_of_variables {base fromVariables : Members}
    (hbase : (Value.obj base).Distinct) (hcomplies : Complies base)
    {vars : List (String × String)} (hvariables : variableLayer base vars = .ok fromVariables)
    {fs : List (String × Range)} (hs : declared.lookup s = some fs) :
    ∃ ms, (merge base fromVariables).get? s = some (.obj ms) := by
  obtain ⟨ms, hms, _⟩ := section_of_complies hbase hcomplies hs
  have hjoined : (∃ ms, fromVariables.get? s = some (.obj ms)) ∨
      fromVariables.get? s = none ∧ ∃ ms, base.get? s = some (.obj ms) := by
    cases hx : fromVariables.get? s with
    | none => exact .inr ⟨rfl, ms, hms⟩
    | some x =>
      obtain ⟨_, rfl⟩ := holdsSections_variableLayer hbase hcomplies hvariables s x hx
      exact .inl ⟨_, rfl⟩
  obtain ⟨ns, hns, _⟩ := get?_merge_section hbase (distinct_variableLayer hvariables) hjoined
  exact ⟨ns, hns⟩

/-- The leaves of all layers, laid over each other. -/
theorem effective_of_layered (ho : (Value.obj overrides).Distinct)
    (hwhole : Layered h path overrides vars file whole) {ns : Members}
    (hlayer : fileLayer h file path.isSome = .ok layer) {fs : List (String × Range)} {r : Range}
    (hs : declared.lookup s = some fs) (hr : fs.lookup k = some r)
    (hns : whole.get? s = some (.obj ns)) {x : Value} (hx : leafAt whole s k = some x)
    (hleaf : x.isLeaf) :
    Effective layer (vars.getD h.surroundings.vars) overrides s k x := by
  obtain ⟨_, layer', hlayer', base, hcheck, fromVariables, hvariables, fromOverrides, hoverrides,
    rfl⟩ := hwhole
  obtain rfl := Except.ok.inj (hlayer.symm.trans hlayer')
  have hfile := distinct_fileLayer hlayer
  have hd := distinct_merge distinct_defaults hfile
  have hbase := distinct_of_accepted hd hcheck
  have hcomplies := complies_of_accepted hd hcheck
  have hdvars := distinct_variableLayer hvariables
  have htop := (leafAt_merge (distinct_merge hbase hdvars) (distinct_overrideLayer ho hoverrides)
    hns hleaf).mp hx
  rcases leafAt_overrideLayer ho hoverrides s k with
    ⟨hnone, hlost⟩ | ⟨o, v, hmem, hgiven, hkept, hv⟩ | ⟨t, hobject⟩
  -- nothing above the variables
  · rw [hnone, Option.none_or] at htop
    obtain ⟨ms, hms⟩ := exists_section_of_variables hbase hcomplies hvariables hs
    have hmiddle := (leafAt_merge hbase hdvars hms hleaf).mp htop
    obtain ⟨_, b, _, hb, hbleaf⟩ := leaf_of_complies hbase hcomplies hs hr
    have hvalue := leafAt_variableLayer hbase hcomplies hvariables hb
    have hbottom := (leafAt_of_accepted hd hcheck hbleaf).mp hb
    obtain ⟨ms', _, hms', _⟩ := leaf_of_complies hd
      (((check_accepted_iff hd).mp hcheck).1.1) hs hr
    have hfrom := (leafAt_merge distinct_defaults hfile hms' hbleaf).mp hbottom
    rw [hb] at hmiddle
    have hvalue' := Effective.below hlost hfrom hvalue
    cases hv : leafAt fromVariables s k with
    | none =>
      rw [hv] at hmiddle hvalue'
      obtain rfl := Option.some.inj hmiddle
      exact hvalue'
    | some v =>
      rw [hv] at hmiddle hvalue'
      obtain rfl := Option.some.inj hmiddle
      exact hvalue'
  · rw [hv] at htop
    obtain rfl := Option.some.inj htop
    rw [isLeaf_orderedValue] at hleaf
    rw [orderedValue_of_isLeaf hleaf]
    exact .override hmem hgiven hkept
  · rw [hobject] at htop
    obtain rfl := Option.some.inj htop
    cases hleaf

/-- What is loaded is valid, and each of its leaves comes from the topmost layer that has it, where
the overrides do not lose it; and what is not valid up to the file is refused whatever the other
layers are. -/
theorem load_precedence (h : Host) (path : Option String) {overrides : Members}
    (vars : Option (List (String × String))) (ho : (Value.obj overrides).Distinct) :
    (∀ cfg, load h path overrides vars = .ok cfg →
      (∃ again, check (.obj cfg) = .ok (.accepted again)) ∧
      ∃ file layer, filePath h.surroundings path = .ok file ∧
        fileLayer h file path.isSome = .ok layer ∧
        ∀ s k fs r, declared.lookup s = some fs → fs.lookup k = some r →
          ∃ x y, Effective layer (vars.getD h.surroundings.vars) overrides s k x ∧
            Shows h.surroundings file.parent s k x y ∧ leafAt cfg s k = some y) ∧
    ∀ file layer issues, filePath h.surroundings path = .ok file →
      fileLayer h file path.isSome = .ok layer →
      check (.obj (merge defaults layer)) = .ok (.rejected issues) →
      load h path overrides vars = .error (.configInvalid issues) := by
  refine ⟨?_, ?_⟩
  · intro cfg hload
    obtain ⟨file, whole, hwhole, settled, hsettled, hcheck⟩ := load_ok.mp hload
    have hd := distinct_withLogPath (distinct_of_layered ho hwhole) hsettled
    obtain ⟨⟨hcomplies, hversion⟩, hcfg⟩ := (check_accepted_iff hd).mp hcheck
    refine ⟨?_, ?_⟩
    · have hdcfg := distinct_of_accepted hd hcheck
      refine ⟨ordered cfg, (check_accepted_iff hdcfg).mpr
        ⟨⟨complies_of_accepted hd hcheck, ?_⟩, rfl⟩⟩
      intro n hn
      exact hversion n ((leafAt_of_accepted hd hcheck rfl).mp hn)
    · have ⟨hfile, layer, hlayer, _⟩ := hwhole
      refine ⟨file, layer, hfile, hlayer, ?_⟩
      intro s k fs r hs hr
      obtain ⟨ms, y, hms, hy, hleaf⟩ := leaf_of_complies hd hcomplies hs hr
      obtain ⟨⟨ns, hns⟩, hshows⟩ := leafAt_withLogPath hsettled hms
      obtain ⟨x, hx, hshow⟩ := hshows k y hy
      have hxleaf : x.isLeaf := by
        rcases hshow with rfl | ⟨_, _, _, _, rfl, _⟩
        · exact hleaf
        · rfl
      exact ⟨x, y, effective_of_layered ho hwhole hlayer hs hr hns hx hxleaf, hshow,
        (leafAt_of_accepted hd hcheck hleaf).mpr hy⟩
  · intro file layer issues hfile hlayer hcheck
    have hrequire := require_error.mpr (.inr ⟨issues, hcheck, rfl⟩)
    simp only [load, hfile, hlayer, hrequire, bind, Except.bind]

end

/-- Whether everything that a layer has is declared, and within its range. -/
def Valid (upper : Members) : Prop :=
  ∀ s x, upper.get? s = some x → ∃ fs ms, declared.lookup s = some fs ∧ x = .obj ms ∧
    ∀ k y, Members.get? ms k = some y → ∃ r, fs.lookup k = some r ∧ r.Admits y

/-- A leaf of a valid layer is declared, and within its range. -/
theorem Valid.admits {upper : Members} (h : Valid upper) {s k : String}
    {fs : List (String × Range)} {y : Value} (hs : declared.lookup s = some fs)
    (hy : leafAt upper s k = some y) : ∃ r, fs.lookup k = some r ∧ r.Admits y := by
  cases hx : upper.get? s with
  | none =>
    rw [leafAt, hx] at hy
    cases hy
  | some x =>
    obtain ⟨_, ms, hfs, rfl, hvalues⟩ := h s x hx
    obtain rfl := Option.some.inj (hs.symm.trans hfs)
    rw [leafAt_of_get? hx] at hy
    exact hvalues k y hy

/-- A valid layer over a configuration that complies leaves it so. -/
theorem complies_merge {base upper : Members} (hbase : (Value.obj base).Distinct)
    (hupper : (Value.obj upper).Distinct) (h : Complies base) (hvalid : Valid upper) :
    Complies (merge base upper) := by
  rw [complies_iff (distinct_merge hbase hupper)]
  intro s
  cases hs : declared.lookup s with
  | none =>
    have hrel := (complies_iff hbase).mp h s
    rw [hs] at hrel
    have hlower : base.get? s = none := by
      generalize base.get? s = o at hrel
      cases hrel
      rfl
    cases hx : upper.get? s with
    | none =>
      rw [get?_merge hbase hupper, hx, hlower]
      exact .none
    | some x =>
      obtain ⟨fs, _, hfs, _⟩ := hvalid s x hx
      cases hs.symm.trans hfs
  | some fs =>
    obtain ⟨ms, hms, hleaves⟩ := section_of_complies hbase h hs
    have hsection : (∃ us, upper.get? s = some (.obj us)) ∨
        upper.get? s = none ∧ ∃ ms, base.get? s = some (.obj ms) := by
      cases hx : upper.get? s with
      | none => exact .inr ⟨rfl, ms, hms⟩
      | some x =>
        obtain ⟨_, us, _, rfl, _⟩ := hvalid s x hx
        exact .inl ⟨us, rfl⟩
    obtain ⟨ns, hns, hget⟩ := get?_merge_section hbase hupper hsection
    rw [hns]
    refine .some ⟨ns, rfl, ?_⟩
    intro k
    rw [hget]
    cases hy : leafAt upper s k with
    | none =>
      rw [leafAt_of_get? hms]
      have hrel := hleaves k
      generalize fs.lookup k = r, Members.get? ms k = x at hrel
      cases hrel with
      | none => exact .none
      | some hadmits =>
        rw [Option.map_none, Option.none_or, Option.map_some,
          orderedValue_of_isLeaf (isLeaf_of_admits hadmits)]
        exact .some hadmits
    | some y =>
      obtain ⟨r, hr, hadmits⟩ := hvalid.admits hs hy
      have hleaf := isLeaf_of_admits hadmits
      rw [hr, Option.map_some, orderedValue_of_isLeaf hleaf, overlaid_of_isLeaf hleaf]
      exact .some hadmits

/-- A host without files and variables. -/
def bareHost : Host := ⟨{ directory := ⟨.root, ["w"]⟩ }, []⟩

theorem complies_defaults : Complies defaults := by
  let l : Leaves := ⟨version, {}, "WARNING", "json", "", true⟩
  have hfit : l.Fit := ⟨by decide, by decide, by decide, by decide, by decide⟩
  exact complies_of_fit hfit distinct_defaults.rearranged

theorem variableLayer_nil (c : Members) : variableLayer c [] = .ok [] := by
  unfold variableLayer
  generalize (leaves [] (ordered c)).mergeSort _ = found
  induction found with
  | nil => rfl
  | cons leaf found ih => rw [List.foldlM_cons]; exact ih

theorem leafAt_of_rearranged {c c' : Members} (h : (Value.obj c).Rearranged (.obj c'))
    {s k : String} {x : Value} (hx : leafAt c s k = some x) (hleaf : x.isLeaf) :
    leafAt c' s k = some x := by
  cases hs : c.get? s with
  | none =>
    rw [leafAt, hs] at hx
    cases hx
  | some v =>
    obtain ⟨w, hw, hvw⟩ := some_of_rel ((Rearranged.obj_obj.mp h).get? s) hs
    cases v with
    | obj ms =>
      obtain ⟨ns, rfl, hmatched⟩ := hvw.of_obj
      rw [leafAt_of_get? hs] at hx
      rw [leafAt_of_get? hw]
      exact leaf_of_matched hmatched hx hleaf
    | _ =>
      rw [leafAt, hs] at hx
      cases hx

/-- The defaults pass the check. -/
theorem check_defaults :
    check (.obj (merge defaults [])) = .ok (.accepted (ordered (ordered defaults))) := by
  have hordered := rearranged_ordered distinct_defaults
  rw [merge_nil]
  refine (check_accepted_iff hordered.symm.distinct).mpr
    ⟨⟨complies_of_rearranged complies_defaults hordered, ?_⟩, rfl⟩
  intro n hn
  have hone := leafAt_of_rearranged hordered (s := "meta") (k := "schema_version") rfl rfl
  exact Value.int.inj (Option.some.inj (hn.symm.trans hone))

/-- With neither a file nor variables, valid overrides are laid over the defaults. -/
theorem load_bareHost {overrides upper : Members} (ho : (Value.obj overrides).Distinct)
    (hupper : overrideLayer overrides = .ok upper) (hvalid : Valid upper)
    (hversion : leafAt upper "meta" "schema_version" = none)
    (hlog : leafAt upper "observability" "log_file" = none) :
    ∃ cfg, load bareHost none overrides (some []) = .ok cfg ∧ ∀ s fs k y,
      declared.lookup s = some fs → y.isLeaf →
        (leafAt upper s k).or (leafAt defaults s k) = some y → leafAt cfg s k = some y := by
  have hd := distinct_overrideLayer ho hupper
  have hfile : filePath bareHost.surroundings none = .ok ⟨.root, ["w", "schema_engine.toml"]⟩ :=
    congrArg Except.ok (by decide +kernel)
  have hshort : bareHost.isTooLong ⟨.root, ["w", "schema_engine.toml"]⟩ = false := by
    decide +kernel
  have hlayer : fileLayer bareHost ⟨.root, ["w", "schema_engine.toml"]⟩ false = .ok [] := by
    have hnone : bareHost.entry? ⟨.root, ["w", "schema_engine.toml"]⟩ = none := rfl
    simp [fileLayer, hnone, hshort]
  -- the defaults, checked and laid under the variables
  have hfirst := rearranged_ordered distinct_defaults
  have hsecond := hfirst.trans (rearranged_ordered hfirst.symm.distinct)
  have hbelow := hsecond.trans (rearranged_ordered hsecond.symm.distinct)
  have hdbelow := hbelow.symm.distinct
  have hdwhole := distinct_merge hdbelow hd
  have hcomplies := complies_merge hdbelow hd
    (complies_of_rearranged complies_defaults hbelow) hvalid
  have hleaves (s : String) (fs : List (String × Range)) (k : String) (y : Value)
      (hs : declared.lookup s = some fs) (hleaf : y.isLeaf)
      (hy : (leafAt upper s k).or (leafAt defaults s k) = some y) :
      leafAt (merge (ordered (ordered (ordered defaults))) upper) s k = some y := by
    obtain ⟨ns, hns, _⟩ := section_of_complies hdwhole hcomplies hs
    refine (leafAt_merge hdbelow hd hns hleaf).mpr ?_
    cases hx : leafAt upper s k with
    | none =>
      rw [hx] at hy
      exact leafAt_of_rearranged hbelow hy hleaf
    | some x =>
      rw [hx] at hy
      exact hy
  have hwhole : Layered bareHost none overrides (some []) ⟨.root, ["w", "schema_engine.toml"]⟩
      (merge (ordered (ordered (ordered defaults))) upper) :=
    ⟨hfile, [], hlayer, _, check_defaults, [], variableLayer_nil _, upper, hupper,
      by rw [merge_nil]⟩
  have hsettled : withLogPath bareHost.surroundings directory
      (merge (ordered (ordered (ordered defaults))) upper) =
        .ok (merge (ordered (ordered (ordered defaults))) upper) := by
    rcases withLogPath_cases bareHost.surroundings directory
      (merge (ordered (ordered (ordered defaults))) upper) with
      ⟨hsame, _⟩ | ⟨ms, text, hs, htext, hempty, _⟩
    · exact hsame
    · have hlogFile := hleaves "observability" _ "log_file" (.str "") rfl rfl (by rw [hlog]; rfl)
      rw [leafAt_of_get? hs, htext] at hlogFile
      rw [Value.str.inj (Option.some.inj hlogFile)] at hempty
      cases hempty
  have hcheck := (check_accepted_iff hdwhole).mpr ⟨⟨hcomplies, fun n hn => by
    have hone := hleaves "meta" _ "schema_version" (.int version) rfl rfl (by rw [hversion]; rfl)
    exact Value.int.inj (Option.some.inj (hn.symm.trans hone))⟩, rfl⟩
  refine ⟨_, load_ok.mpr ⟨_, _, hwhole, _, hsettled, hcheck⟩, ?_⟩
  intro s fs k y hs hleaf hy
  exact (leafAt_of_accepted hdwhole hcheck hleaf).mpr (hleaves s fs k y hs hleaf hy)

/-- A layer of one leaf is valid if that is declared, and within its range. -/
theorem valid_singleton {s k : String} {fs : List (String × Range)} {r : Range} {v : Value}
    (hs : declared.lookup s = some fs) (hr : fs.lookup k = some r) (hv : r.Admits v) :
    Valid [(s, .obj [(k, v)])] := by
  intro s' x hx
  obtain ⟨rfl, rfl⟩ := Prod.mk.inj (List.mem_singleton.mp (mem_of_get? hx))
  refine ⟨fs, _, hs, rfl, ?_⟩
  intro k' y hy
  obtain ⟨rfl, rfl⟩ := Prod.mk.inj (List.mem_singleton.mp (mem_of_get? hy))
  exact ⟨r, hr, hv⟩

/-- An override that names a leaf decides on it. -/
theorem load_precedence_workers :
    let overrides : Members := [("engine.max_workers", .int 3)]
    (Value.obj overrides).Distinct ∧ ∃ cfg, load bareHost none overrides (some []) = .ok cfg ∧
      leafAt cfg "engine" "max_workers" = some (.int 3) := by
  intro overrides
  have hd : (Value.obj overrides).Distinct := .of_leaves (by decide) (by simp [overrides, isLeaf])
  have hsorted : overrides.sorted = overrides := List.mergeSort_of_pairwise (by decide)
  have hpath : overridePath "engine.max_workers" = ["engine", "max_workers"] := by decide +kernel
  have hupper : overrideLayer overrides = .ok [("engine", .obj [("max_workers", .int 3)])] := by
    rw [overrideLayer, hsorted, List.foldlM_cons, addOverride_ok.mpr ⟨by simp [hpath], rfl⟩, hpath]
    rfl
  have hvalid : Valid [("engine", .obj [("max_workers", .int 3)])] :=
    valid_singleton rfl rfl ⟨3, rfl, by decide, by decide⟩
  obtain ⟨cfg, hload, _⟩ := load_bareHost hd hupper hvalid rfl rfl
  obtain ⟨_, _, _, _, _, hleaves⟩ := (load_precedence bareHost none (some []) hd).1 cfg hload
  obtain ⟨x, y, heffective, hshows, hy⟩ := hleaves "engine" "max_workers" _ _ rfl rfl
  refine ⟨hd, cfg, hload, ?_⟩
  have hgiven : given ("engine.max_workers", .int 3) "engine" "max_workers" = some (.int 3) := by
    rw [given, hpath]
    rfl
  obtain rfl : y = x := hshows.resolve_right fun h => absurd h.1 (by decide)
  rw [hy]
  cases heffective with
  | override hmem hgiven' =>
    obtain rfl := List.mem_singleton.mp hmem
    exact hgiven'.symm.trans hgiven
  | below hnone =>
    rcases hnone with hnone | hlost
    · cases hgiven.symm.trans (hnone _ (List.mem_singleton_self _))
    · have halone : overrides.sorted = [] ++ ("engine.max_workers", .int 3) :: [] := hsorted
      exact absurd hlost (not_lost halone (by simp) hgiven)

/-- An override of a leaf is lost to the defaults if another one takes the place of its section. -/
theorem override_lost :
    let overrides : Members := [(".engine.max_workers", .int 3),
      ("engine", .obj [("parallel_min_children", .int 2)])]
    given (".engine.max_workers", .int 3) "engine" "max_workers" = some (.int 3) ∧
    ∃ cfg, load bareHost none overrides (some []) = .ok cfg ∧
      leafAt cfg "engine" "max_workers" = some (.int 1) := by
  intro overrides
  have hd : (Value.obj overrides).Distinct := by
    refine .object (by decide) ?_
    simp only [overrides, List.forall_mem_cons]
    exact ⟨.leaf rfl, .of_leaves (by decide) (by simp [isLeaf]), by simp⟩
  have hsorted : overrides.sorted = overrides := List.mergeSort_of_pairwise (by decide)
  have hpath : overridePath ".engine.max_workers" = ["engine", "max_workers"] := by decide +kernel
  have hpath' : overridePath "engine" = ["engine"] := by decide +kernel
  have hordered : orderedValue (.obj [("parallel_min_children", .int 2)]) =
      .obj [("parallel_min_children", .int 2)] := by
    simp [orderedValue, orderedMembers, Members.sorted]
  have hfirst : addOverride [] (".engine.max_workers", .int 3) =
      .ok (setAt ["engine", "max_workers"] (.int 3) []) :=
    addOverride_ok.mpr ⟨by simp [hpath], by rw [hpath]; rfl⟩
  have hsecond : addOverride (setAt ["engine", "max_workers"] (.int 3) [])
      ("engine", .obj [("parallel_min_children", .int 2)]) =
        .ok [("engine", .obj [("parallel_min_children", .int 2)])] :=
    addOverride_ok.mpr ⟨by simp [hpath'], by rw [hpath', hordered]; rfl⟩
  have hupper : overrideLayer overrides =
      .ok [("engine", .obj [("parallel_min_children", .int 2)])] := by
    rw [overrideLayer, hsorted]
    simp only [overrides, List.foldlM_cons, hfirst, hsecond, bind, Except.bind]
    rfl
  have hvalid : Valid [("engine", .obj [("parallel_min_children", .int 2)])] :=
    valid_singleton rfl rfl ⟨2, rfl, by decide, by decide⟩
  refine ⟨by rw [given, hpath]; rfl, ?_⟩
  obtain ⟨cfg, hload, hleaves⟩ := load_bareHost hd hupper hvalid rfl rfl
  exact ⟨cfg, hload, hleaves "engine" _ "max_workers" (.int 1) rfl rfl rfl⟩

end Conform.Config
