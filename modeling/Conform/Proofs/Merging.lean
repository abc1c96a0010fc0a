import Conform.Proofs.Layers
import Conform.Proofs.Paths

/-!
One configuration laid over another holds at a path what the upper one has there, or else what the
lower one has, unless a value of the upper one stands in the way. All that is known of layers as an
operation follows from this: which of them can be left out, and when they may be grouped anew.
-/
namespace Conform.Config

open Value

variable {v : Value} {old : Option Value} {b o c : Members} {p : List String}

theorem look_orderedValue (h : v.Distinct) (p : List String) :
    (orderedValue v).look p = v.look p := by
  induction p generalizing v with
  | nil => cases v <;> rfl
  | cons k p ih =>
    cases v with
    | obj ms =>
      have hget : Members.get? (ordered ms) k = (Members.get? ms k).map orderedValue :=
        get?_ordered h.nodup k
      rw [orderedValue, look_cons, look_cons]
      change (Members.get? (ordered ms) k).bind (look · p) = _
      rw [hget, Option.bind_map]
      exact Option.bind_congr fun x hx => ih (h.of_get? hx)
    | _ => rfl

theorem blocks_orderedValue (h : v.Distinct) : (orderedValue v).Blocks p ↔ v.Blocks p := by
  simp only [blocks_iff_look, look_orderedValue h]

theorem look_sectionOf (old : Option Value) (k : String) (p : List String) :
    (Members.get? (sectionOf old) k).bind (look · p) = old.bind (look · (k :: p)) := by
  cases old with
  | none => rfl
  | some v =>
    cases v with
    | obj ms => exact (look_cons ms k p).symm
    | _ => rfl

open Classical in
/-- What stands at a path after a value is laid over another: that of the value; below a value
that is no section, nothing; and otherwise what was there before. -/
theorem look_overlaid (h : v.Distinct) (old : Option Value) (p : List String) :
    (overlaid old v).look p =
      (v.look p).or (if v.Blocks p then none else old.bind (look · p)) := by
  induction p generalizing v old with
  | nil => cases v <;> rfl
  | cons k p ih =>
    cases v with
    | obj ms =>
      rw [overlaid, look_cons, look_cons, get?_overlay h.nodup, blocks_cons]
      cases hx : Members.get? ms k with
      | none => simp [look_sectionOf]
      | some x => simp [ih (h.of_get? hx), look_sectionOf]
    | _ =>
      rw [if_pos (blocks_of_not_section rfl k p)]
      rfl

open Classical in
theorem look_merge (hb : (Value.obj b).Distinct) (ho : (Value.obj o).Distinct) (p : List String) :
    (Value.obj (merge b o)).look p = ((Value.obj o).look p).or
      (if (Value.obj o).Blocks p then none else (Value.obj b).look p) := by
  have hmerge : Value.obj (merge b o) =
      overlaid (some (orderedValue (.obj b))) (orderedValue (.obj o)) := rfl
  have ho' : (orderedValue (.obj o)).Distinct := (rearranged_orderedValue ho).symm.distinct
  rw [hmerge, look_overlaid ho', blocks_orderedValue ho, look_orderedValue ho, Option.bind_some,
    look_orderedValue hb]

/-- Whether two configurations, where both have anything, both have a section or neither has. -/
def Agree (b o : Members) : Prop :=
  ∀ p x y, (Value.obj b).at? p = some x → (Value.obj o).at? p = some y → x.isSection = y.isSection

theorem blocks_merge_of_upper (hb : (Value.obj b).Distinct) (ho : (Value.obj o).Distinct)
    (h : (Value.obj o).Blocks p) : (Value.obj (merge b o)).Blocks p := by
  obtain ⟨q, k, rest, x, rfl, hx, hsection⟩ := blocks_iff_look.mp h
  refine blocks_iff_look.mpr ⟨q, k, rest, x, rfl, ?_, hsection⟩
  rw [look_merge hb ho, hx, Option.some_or]

/-- Where the upper one leaves a path free and agrees on sections, the lower one decides. -/
theorem blocks_merge_iff (hb : (Value.obj b).Distinct) (ho : (Value.obj o).Distinct)
    (hagree : Agree b o) (hfree : ¬ (Value.obj o).Blocks p) :
    (Value.obj (merge b o)).Blocks p ↔ (Value.obj b).Blocks p := by
  simp only [blocks_iff_look (p := p)]
  refine exists_congr fun q => exists_congr fun k => exists_congr fun rest => exists_congr fun x =>
    and_congr_right fun hp => and_congr_left fun hsection => ?_
  subst hp
  have hfree' : ¬ (Value.obj o).Blocks q := fun h => hfree (h.append _)
  rw [look_merge hb ho, if_neg hfree']
  -- the upper one has nothing here that is no section, so the lower one has neither
  cases hy : (Value.obj o).look q with
  | none => rw [Option.none_or]
  | some y =>
    have hy' : y.isSection := by
      by_contra hy'
      rw [Bool.not_eq_true] at hy'
      exact hfree ⟨q, k, rest, y, rfl, (look_eq_some_iff hy').mp hy, hy'⟩
    rw [Option.some_or]
    constructor
    · intro hyx
      rw [Option.some.inj hyx, hsection] at hy'
      cases hy'
    · intro hx
      obtain ⟨z, hz, rfl⟩ := Option.map_eq_some_iff.mp hy
      have hsame := hagree q x z ((look_eq_some_iff hsection).mp hx) hz
      rw [hsection, ← isSection_bare, hy'] at hsame
      cases hsame

section
variable (hb : (Value.obj b).Distinct) (ho : (Value.obj o).Distinct)

include hb in
theorem merge_empty : (Value.obj (merge b [])).Rearranged (.obj b) := by
  refine rearranged_of_look_eq (distinct_merge hb .empty) hb fun p => ?_
  rw [look_merge hb .empty, if_neg (not_blocks_empty p)]
  cases p with
  | nil => rfl
  | cons k p => rw [look_empty_cons, Option.none_or]

include ho in
theorem empty_merge : (Value.obj (merge [] o)).Rearranged (.obj o) := by
  refine rearranged_of_look_eq (distinct_merge .empty ho) ho fun p => ?_
  rw [look_merge .empty ho]
  cases p with
  | nil => rfl
  | cons k p => rw [look_empty_cons, ite_self, Option.or_none]

include hb ho

/-- Laying the upper one over the result again changes nothing. -/
theorem merge_merge_self :
    (Value.obj (merge (merge b o) o)).Rearranged (.obj (merge b o)) := by
  have hr := distinct_merge hb ho
  refine rearranged_of_look_eq (distinct_merge hr ho) hr fun p => ?_
  rw [look_merge hr ho, look_merge hb ho]
  cases (Value.obj o).look p with
  | some x => rfl
  | none =>
    by_cases hblocks : (Value.obj o).Blocks p
    · simp [hblocks]
    · simp [hblocks]

theorem merge_rearranged {b' o' : Members} (hbb' : (Value.obj b).Rearranged (.obj b'))
    (hoo' : (Value.obj o).Rearranged (.obj o')) :
    (Value.obj (merge b o)).Rearranged (.obj (merge b' o')) := by
  have hb' := hbb'.symm.distinct
  have ho' := hoo'.symm.distinct
  refine rearranged_of_look (distinct_merge hb ho) (distinct_merge hb' ho') fun p => ?_
  rw [look_merge hb ho, look_merge hb' ho', ← hoo'.blocks]
  have hlook := hoo'.look p
  generalize (Value.obj o).look p = x, (Value.obj o').look p = y at hlook
  cases hlook with
  | some hxy => exact .some hxy
  | none =>
    split
    · exact .none
    · exact hbb'.look p

/-- Three layers come to the same in either grouping, if the upper two agree on what is a
section. -/
theorem merge_assoc (hc : (Value.obj c).Distinct) (hagree : Agree o c) :
    (Value.obj (merge (merge b o) c)).Rearranged (.obj (merge b (merge o c))) := by
  have hbo := distinct_merge hb ho
  have hoc := distinct_merge ho hc
  refine rearranged_of_look_eq (distinct_merge hbo hc) (distinct_merge hb hoc) fun p => ?_
  rw [look_merge hbo hc, look_merge hb hoc, look_merge hb ho, look_merge ho hc]
  cases hlook : (Value.obj c).look p with
  | some x => simp
  | none =>
    by_cases hcp : (Value.obj c).Blocks p
    · have hblocks : (Value.obj (merge o c)).Blocks p := blocks_merge_of_upper ho hc hcp
      simp [hcp, hblocks]
    · have hblocks : (Value.obj (merge o c)).Blocks p ↔ (Value.obj o).Blocks p :=
        blocks_merge_iff ho hc hagree hcp
      by_cases hop : (Value.obj o).Blocks p
      · simp [hcp, hop, hblocks.mpr hop]
      · simp [hcp, hop, mt hblocks.mp hop]

end

/-- One configuration laid over another one, at every path and as an operation. A value of the
upper one that is no section stands as it is; a section has the members of both; below a value that
is no section there is nothing; and all else is as the lower one has it. So nothing is added by
laying nothing over or under or the same again, the order of members is of no effect, and three
layers may be joined in either order if those above the first agree on what is a section. -/
theorem merge_right_biased (hb : (Value.obj b).Distinct) (ho : (Value.obj o).Distinct) :
    (∀ p, p ≠ [] →
      (∀ v, (Value.obj o).at? p = some v → v.isSection = false →
        (Value.obj (merge b o)).at? p = some v) ∧
      (∀ ms, (Value.obj o).at? p = some (.obj ms) →
        ∃ ns, (Value.obj (merge b o)).at? p = some (.obj ns) ∧
          ∀ k, k ∈ Members.keys ns ↔ k ∈ Members.keys ms ∨
            ∃ bs, (Value.obj b).at? p = some (.obj bs) ∧ k ∈ Members.keys bs) ∧
      ((Value.obj o).at? p = none → (Value.obj o).Blocks p →
        (Value.obj (merge b o)).at? p = none) ∧
      ((Value.obj o).at? p = none → ¬ (Value.obj o).Blocks p →
        Option.Rel Rearranged ((Value.obj (merge b o)).at? p) ((Value.obj b).at? p))) ∧
    (Value.obj (merge b [])).Rearranged (.obj b) ∧
    (Value.obj (merge [] o)).Rearranged (.obj o) ∧
    (Value.obj (merge (merge b o) o)).Rearranged (.obj (merge b o)) ∧
    (∀ b' o', (Value.obj b).Rearranged (.obj b') → (Value.obj o).Rearranged (.obj o') →
      (Value.obj (merge b o)).Rearranged (.obj (merge b' o'))) ∧
    ∀ c, (Value.obj c).Distinct → Agree o c →
      (Value.obj (merge (merge b o) c)).Rearranged (.obj (merge b (merge o c))) := by
  refine ⟨?_, merge_empty hb, empty_merge ho, merge_merge_self hb ho,
    fun b' o' => merge_rearranged hb ho, fun c hc => merge_assoc hb ho hc⟩
  intro p hp
  refine ⟨?_, ?_, ?_, ?_⟩
  · intro v hv hsection
    rw [← look_eq_some_iff hsection] at hv ⊢
    rw [look_merge hb ho, hv, Option.some_or]
  · intro ms hms
    have hsection : (Value.obj (merge b o)).look p = some (.obj []) := by
      rw [look_merge hb ho, look_section_iff.mpr ⟨ms, hms⟩, Option.some_or]
    obtain ⟨ns, hns⟩ := look_section_iff.mp hsection
    refine ⟨ns, hns, fun k => ?_⟩
    -- a name is a member of a section if the path goes on by it
    have hmember {v : Value} {ms : Members} (h : v.at? p = some (.obj ms)) :
        k ∈ Members.keys ms ↔ v.look (p ++ [k]) ≠ none := by
      rw [look_concat_ne_none, h]
      simp
    rw [hmember hns, hmember hms, ← look_concat_ne_none, look_merge hb ho,
      if_neg (not_blocks_below hms k)]
    cases (Value.obj o).look (p ++ [k]) <;> simp
  · intro hnone hblocks
    rw [← look_eq_none_iff] at hnone ⊢
    rw [look_merge hb ho, hnone, if_pos hblocks, Option.none_or]
  · intro hnone hfree
    have hbelow (q : List String) :
        (Value.obj (merge b o)).look (p ++ q) = (Value.obj b).look (p ++ q) := by
      have hnone' : (Value.obj o).look (p ++ q) = none := by
        rw [look_append, hnone, Option.bind_none]
      have hfree' : ¬ (Value.obj o).Blocks (p ++ q) := by rwa [blocks_append hnone]
      rw [look_merge hb ho, hnone', if_neg hfree', Option.none_or]
    exact rel_of_look_eq (distinct_merge hb ho) hb hbelow

/-- A value over a section, a section over a value, one where there was nothing, and a third layer
that goes on in it. -/
theorem merge_right_biased_conflicts :
    let b : Members := [("flat", .int 5), ("engine", .obj [("deep", .obj [("x", .int 1)]),
      ("workers", .int 2)])]
    let o : Members := [("new", .obj []), ("flat", .obj []), ("engine", .obj [("deep", .null)])]
    let c : Members := [("new", .obj [("k", .bool true)])]
    (Value.obj (merge b o)).at? ["engine", "deep"] = some .null ∧
      (∃ ns, (Value.obj (merge b o)).at? ["engine"] = some (.obj ns) ∧
        "deep" ∈ Members.keys ns ∧ "workers" ∈ Members.keys ns ∧ "x" ∉ Members.keys ns) ∧
      (∃ ns, (Value.obj (merge b o)).at? ["flat"] = some (.obj ns) ∧ Members.keys ns = []) ∧
      (Value.obj (merge b o)).at? ["engine", "deep", "x"] = none ∧
      (Value.obj (merge b o)).at? ["engine", "workers"] = some (.int 2) ∧
      (Value.obj (merge (merge b o) c)).Rearranged (.obj (merge b (merge o c))) := by
  intro b o c
  have hx : (Value.obj [("x", .int 1)]).Distinct :=
    .of_leaves (by decide) (List.forall_mem_singleton.mpr rfl)
  have hlower : (Value.obj [("deep", .obj [("x", .int 1)]), ("workers", .int 2)]).Distinct :=
    .object (by decide) (List.forall_mem_cons.mpr ⟨hx, List.forall_mem_singleton.mpr (.leaf rfl)⟩)
  have hb : (Value.obj b).Distinct := .object (by decide)
    (List.forall_mem_cons.mpr ⟨.leaf rfl, List.forall_mem_singleton.mpr hlower⟩)
  have hnull : (Value.obj [("deep", .null)]).Distinct :=
    .of_leaves (by decide) (List.forall_mem_singleton.mpr rfl)
  have ho : (Value.obj o).Distinct := .object (by decide)
    (List.forall_mem_cons.mpr
      ⟨.empty, List.forall_mem_cons.mpr ⟨.empty, List.forall_mem_singleton.mpr hnull⟩⟩)
  have hk : (Value.obj [("k", .bool true)]).Distinct :=
    .of_leaves (by decide) (List.forall_mem_singleton.mpr rfl)
  have hc : (Value.obj c).Distinct :=
    .object (by decide) (List.forall_mem_singleton.mpr hk)
  obtain ⟨hpaths, _, _, _, _, hassoc⟩ := merge_right_biased hb ho
  have hengine : (Value.obj o).at? ["engine"] = some (.obj [("deep", .null)]) := rfl
  have hflat : (Value.obj o).at? ["flat"] = some (.obj []) := rfl
  refine ⟨?_, ?_, ?_, ?_, ?_, ?_⟩
  · exact (hpaths ["engine", "deep"] (by simp)).1 .null rfl rfl
  · obtain ⟨ns, hns, hkeys⟩ := (hpaths ["engine"] (by simp)).2.1 _ hengine
    refine ⟨ns, hns, (hkeys _).mpr (.inl (by decide)), (hkeys _).mpr (.inr ⟨_, rfl, by decide⟩), ?_⟩
    rw [hkeys, not_or]
    refine ⟨by decide, ?_⟩
    rintro ⟨bs, hbs, hx⟩
    obtain rfl := Value.obj.inj (Option.some.inj hbs)
    exact absurd hx (by decide)
  · obtain ⟨ns, hns, hkeys⟩ := (hpaths ["flat"] (by simp)).2.1 _ hflat
    refine ⟨ns, hns, List.eq_nil_iff_forall_not_mem.mpr fun k hk => ?_⟩
    rcases (hkeys k).mp hk with h | ⟨bs, hbs, _⟩
    · cases h
    · cases hbs
  · exact (hpaths ["engine", "deep", "x"] (by simp)).2.2.1 rfl
      ⟨["engine", "deep"], "x", [], .null, rfl, rfl, rfl⟩
  · have hfree : ¬ (Value.obj o).Blocks ["engine", "workers"] := not_blocks_below hengine "workers"
    have hrel := (hpaths ["engine", "workers"] (by simp)).2.2.2 rfl hfree
    obtain ⟨x, hx, hxy⟩ := some_of_rel_right hrel (b := .int 2) rfl
    rw [hx, hxy.symm.of_leaf rfl]
  · refine hassoc c hc ?_
    intro p x y hx hy
    cases p with
    | nil =>
      rw [at?_nil] at hx hy
      rw [← Option.some.inj hx, ← Option.some.inj hy]
      rfl
    | cons k p =>
      obtain ⟨z, hz, hy⟩ := Option.bind_eq_some_iff.mp hy
      obtain ⟨rfl, rfl⟩ : k = "new" ∧ z = .obj [("k", .bool true)] := by
        simpa [c] using mem_of_get? hz
      -- what is new there is empty in the second layer, so no path goes on
      cases p with
      | nil =>
        rw [at?_nil] at hy
        obtain rfl := Option.some.inj hx
        obtain rfl := Option.some.inj hy
        rfl
      | cons k p => cases hx

end Conform.Config
