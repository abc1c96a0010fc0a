import Conform.Proofs.Acceptance
import Conform.Proofs.Rearranged

/-!
What does not depend on the order of members. Rearranged values are of one kind, equal the same
values and count as the same number; so a keyword accepts a value of its own exactly if it accepts
every rearrangement, also in a rearranged node, and holds of the same values.
-/
namespace Conform

/-- What holds of all elements of a list holds of those that are related to them. -/
theorem forall_mem_of_forall₂ {α β : Type} {R : α → β → Prop} {P : α → Prop} {Q : β → Prop}
    {xs : List α} {ys : List β} (h : List.Forall₂ R xs ys) (hPQ : ∀ x y, R x y → P x → Q y)
    (hP : ∀ x ∈ xs, P x) : ∀ y ∈ ys, Q y := by
  induction h with
  | nil => simp
  | cons hxy _ ih =>
    obtain ⟨hx, hxs⟩ := List.forall_mem_cons.mp hP
    exact List.forall_mem_cons.mpr ⟨hPQ _ _ hxy hx, ih hxs⟩

theorem exists_of_forall₂_of_mem {α β : Type} {R : α → β → Prop} {xs : List α} {ys : List β}
    (h : List.Forall₂ R xs ys) {x : α} (hx : x ∈ xs) : ∃ y ∈ ys, R x y := by
  induction h with
  | nil => cases hx
  | @cons a b _ _ hab _ ih =>
    rcases List.mem_cons.mp hx with rfl | hx
    · exact ⟨b, List.mem_cons_self, hab⟩
    · obtain ⟨y, hy, hxy⟩ := ih hx
      exact ⟨y, List.mem_cons_of_mem _ hy, hxy⟩

namespace Value.Rearranged

variable {v v' w w' : Value} {ms ns : Members}

/-- What holds of the members of an object holds of those of a rearrangement. -/
theorem Matched.forall_mem (h : Matched ms ns) {P Q : String → Value → Prop}
    (hPQ : ∀ k x y, x.Rearranged y → P k x → Q k y) (hP : ∀ m ∈ ms, P m.1 m.2) :
    ∀ n ∈ ns, Q n.1 n.2 := by
  intro n hn
  have hy : ns.get? n.1 = some n.2 := get?_of_mem (h.keys.nodup_iff.mp h.nodup) hn
  obtain ⟨x, hx, hxy⟩ := some_of_rel_right (h.get? n.1) hy
  exact hPQ _ _ _ hxy (hP (n.1, x) (mem_of_get? hx))

theorem Matched.symm (h : Matched ms ns) : Matched ns ms :=
  obj_obj.mp (obj_obj.mpr h).symm

theorem Matched.has_eq (h : Matched ms ns) (k : String) : ms.has k = ns.has k := by
  rw [Bool.eq_iff_iff, Members.has_iff_mem, Members.has_iff_mem, h.keys.mem_iff]

/-- A leaf that a name finds is found by it in every rearrangement. -/
theorem Matched.get?_leaf (h : Matched ms ns) {k : String} (hv : v.isLeaf)
    (hk : ms.get? k = some v) : ns.get? k = some v := by
  obtain ⟨w, hw, hvw⟩ := some_of_rel (h.get? k) hk
  rw [hw, hvw.of_leaf hv]

theorem of?_eq (h : v.Rearranged w) : Kind.of? v = Kind.of? w := by
  cases h <;> rfl

theorem classify_eq (h : v.Rearranged w) : Kind.classify v = Kind.classify w := by
  cases h <;> rfl

theorem decimal?_eq (h : v.Rearranged w) : v.decimal? = w.decimal? := by
  cases h <;> rfl

/-- The parts of an array keep their places. -/
theorem listed (h : v.Rearranged w) : List.Forall₂ Rearranged v.listed w.listed := by
  cases v with
  | arr xs =>
    obtain ⟨ys, rfl, hys⟩ := h.of_arr
    exact hys
  | obj ms =>
    obtain ⟨ns, rfl, hns⟩ := h.of_obj
    exact .cons h .nil
  | _ =>
    obtain rfl := h.of_leaf rfl
    exact .cons h .nil

theorem isSchema (h : v.Rearranged w) (hv : v.IsSchema) : w.IsSchema := by
  obtain ⟨ms, rfl⟩ := hv
  obtain ⟨ns, rfl, _⟩ := h.of_obj
  exact ⟨ns, rfl⟩

theorem isBool (h : v.Rearranged w) (hv : v.IsBool) : w.IsBool := by
  obtain ⟨b, rfl⟩ := hv
  exact ⟨b, h.of_leaf rfl⟩

theorem isText (h : v.Rearranged w) (hv : v.IsText) : w.IsText := by
  obtain ⟨s, rfl⟩ := hv
  exact ⟨s, h.of_leaf rfl⟩

theorem isTypeName (h : v.Rearranged w) (hv : v.IsTypeName) : w.IsTypeName := by
  obtain ⟨s, rfl, hs⟩ := hv
  exact ⟨s, h.of_leaf rfl, hs⟩

theorem counts (h : v.Rearranged w) {n : Nat} (hv : v.Counts n) : w.Counts n := by
  rcases hv with rfl | ⟨x, rfl, hx⟩
  · exact .inl (h.of_leaf rfl)
  · exact .inr ⟨x, h.of_leaf rfl, hx⟩

theorem forall_mem_arr {xs : List Value} (h : Rearranged (.arr xs) w) {P Q : Value → Prop}
    (hPQ : ∀ x y, x.Rearranged y → P x → Q y) (hP : ∀ x ∈ xs, P x) :
    ∃ ys, w = .arr ys ∧ xs.length = ys.length ∧ ∀ y ∈ ys, Q y := by
  obtain ⟨ys, rfl, hys⟩ := h.of_arr
  exact ⟨ys, rfl, hys.length_eq, forall_mem_of_forall₂ hys hPQ hP⟩

theorem isSchemaList (h : v.Rearranged w) (hv : v.IsSchemaList) : w.IsSchemaList := by
  rcases hv with hv | ⟨xs, rfl, hxs⟩
  · exact .inl (h.isSchema hv)
  · obtain ⟨ys, rfl, _, hys⟩ := h.forall_mem_arr (fun x y hxy hx => hxy.isSchema hx) hxs
    exact .inr ⟨ys, rfl, hys⟩

theorem isSchemaMap (h : v.Rearranged w) (hv : v.IsSchemaMap) : w.IsSchemaMap := by
  obtain ⟨ms, rfl, hms⟩ := hv
  obtain ⟨ns, rfl, hns⟩ := h.of_obj
  exact ⟨ns, rfl, hns.forall_mem (fun _ x y hxy hx => hxy.isSchema hx) hms⟩

theorem isTypes (h : v.Rearranged w) (hv : v.IsTypes) : w.IsTypes := by
  rcases hv with hv | ⟨xs, rfl, hne, hxs⟩
  · exact .inl (h.isTypeName hv)
  · obtain ⟨ys, rfl, hlen, hys⟩ :=
      h.forall_mem_arr (fun x y hxy hx => hx.imp hxy.isTypeName hxy.isSchema) hxs
    refine .inr ⟨ys, rfl, ?_, hys⟩
    rintro rfl
    exact hne (List.eq_nil_of_length_eq_zero hlen)

theorem isDependency (h : v.Rearranged w) (hv : v.IsDependency) : w.IsDependency := by
  rcases hv with hv | hv | ⟨xs, rfl, hxs⟩
  · exact .inl (h.isText hv)
  · exact .inr (.inl (h.isSchema hv))
  · obtain ⟨ys, rfl, _, hys⟩ := h.forall_mem_arr (fun x y hxy hx => hxy.isText hx) hxs
    exact .inr (.inr ⟨ys, rfl, hys⟩)

theorem names_eq (h : v.Rearranged w) : v.names = w.names := by
  have hlisted := h.listed
  unfold names
  generalize v.listed = xs, w.listed = ys at hlisted
  induction hlisted with
  | nil => rfl
  | cons hxy _ ih => cases hxy with
    | leaf => simp only [List.filterMap_cons, ih]
    | list => simpa only [List.filterMap_cons] using ih
    | object => simpa only [List.filterMap_cons] using ih

end Value.Rearranged

namespace Value

theorem equalList_iff {xs ys : List Value} :
    equalList xs ys ↔ List.Forall₂ (fun x y => x.equal y) xs ys := by
  induction xs generalizing ys with
  | nil => cases ys <;> simp [equalList]
  | cons x xs ih =>
    cases ys with
    | nil => simp [equalList]
    | cons y ys => rw [equalList, Bool.and_eq_true, ih, List.forall₂_cons]

theorem equalMembers_iff {ms ns : Members} :
    equalMembers ms ns ↔ ∀ m ∈ ms, ∃ y, ns.get? m.1 = some y ∧ m.2.equal y := by
  induction ms with
  | nil => simp [equalMembers]
  | cons m ms ih =>
    obtain ⟨k, x⟩ := m
    rw [equalMembers, Bool.and_eq_true, ih, List.forall_mem_cons]
    refine and_congr_left fun _ => ?_
    cases hk : List.lookup k ns with
    | none => simp [Members.get?, hk]
    | some y => simp [Members.get?, hk]

/-- A leaf equals no value but a leaf. -/
theorem isLeaf_of_equal {v w : Value} (h : v.equal w) (hv : v.isLeaf) : w.isLeaf := by
  cases w with
  | arr ys => cases v <;> simp_all [equal, isLeaf]
  | obj ns => cases v <;> simp_all [equal, isLeaf]
  | _ => rfl

/-- Equality does not see the order of members, on either side. -/
theorem Rearranged.equal {v v' : Value} (h : v.Rearranged v') {w w' : Value}
    (h' : w.Rearranged w') (heq : v.equal w) : v'.equal w' := by
  induction h generalizing w w' with
  | leaf hv => rwa [h'.of_leaf (isLeaf_of_equal heq hv)]
  | @list xs ys hlen _ ih =>
    cases w with
    | arr us =>
      obtain ⟨zs, rfl, hzs⟩ := h'.of_arr
      obtain ⟨hlen', hzs⟩ := List.forall₂_iff_get.mp hzs
      obtain ⟨hsame, heq⟩ := List.forall₂_iff_get.mp (equalList_iff.mp heq)
      refine equalList_iff.mpr (List.forall₂_iff_get.mpr ⟨?_, ?_⟩)
      · rw [← hlen, hsame, hlen']
      · intro i hi hi'
        have hx : i < xs.length := hlen ▸ hi
        have hu : i < us.length := hlen' ▸ hi'
        exact ih i _ _ (List.getElem?_eq_getElem hx) (List.getElem?_eq_getElem hi)
          (hzs i hu hi') (heq i hx hu)
    | _ => simp [Value.equal] at heq
  | @object ms ns hn hkeys h ih =>
    cases w with
    | obj us =>
      obtain ⟨zs, rfl, hzs⟩ := h'.of_obj
      have hms : Rearranged.Matched ms ns := Rearranged.obj_obj.mp (.object hn hkeys h)
      rw [Value.equal, Bool.and_eq_true, beq_iff_eq, equalMembers_iff] at heq ⊢
      obtain ⟨hlen, heq⟩ := heq
      refine ⟨?_, ?_⟩
      · have hl := hkeys.length_eq
        have hl' := hzs.keys.length_eq
        simp only [Members.keys, List.length_map] at hl hl'
        rw [← hl, hlen, hl']
      · intro n hmem
        have hy := get?_of_mem (hkeys.nodup_iff.mp hn) hmem
        obtain ⟨x, hx, hxy⟩ := some_of_rel_right (hms.get? n.1) hy
        obtain ⟨u, hu, hxu⟩ := heq (n.1, x) (mem_of_get? hx)
        obtain ⟨z, hz, huz⟩ := some_of_rel (hzs.get? n.1) hu
        exact ⟨z, hz, ih n.1 x n.2 hx hy huz hxu⟩
    | _ => simp [Value.equal] at heq

end Value

section
open Value Value.Rearranged

variable {node node' : Members} (hn : Matched node node')

include hn

/-- What an object has under a name, a rearrangement has in the same or another order. -/
theorem names_of_matched {keyword name : String} {t : Value} (h : Names node keyword name t) :
    ∃ t', t.Rearranged t' ∧ Names node' keyword name t' := by
  obtain ⟨ms, hms, ht⟩ := h
  obtain ⟨w, hw, hmw⟩ := some_of_rel (hn.get? keyword) hms
  obtain ⟨ns, rfl, hns⟩ := hmw.of_obj
  obtain ⟨t', ht', htt'⟩ := some_of_rel (hns.get? name) (get?_of_mem hns.nodup ht)
  exact ⟨t', htt', ns, hw, mem_of_get? ht'⟩

theorem covers_of_matched {name : String} (h : Covers node name) : Covers node' name := by
  rcases h with ⟨ps, t, hps, ht⟩ | ⟨source, t, hnames, hmatches⟩
  · obtain ⟨w, hw, hpw⟩ := some_of_rel (hn.get? "properties") hps
    obtain ⟨qs, rfl, hqs⟩ := hpw.of_obj
    obtain ⟨t', ht', _⟩ := some_of_rel (hqs.get? name) ht
    exact .inl ⟨qs, t', hw, ht'⟩
  · obtain ⟨t', _, hnames'⟩ := names_of_matched hn hnames
    exact .inr ⟨source, t', hnames', hmatches⟩

/-- What the value of a name always is, it is in a rearrangement. -/
theorem forall_get?_of_matched {k : String} {P Q : Value → Prop}
    (hPQ : ∀ x y, x.Rearranged y → P x → Q y) (hP : ∀ x, node.get? k = some x → P x) :
    ∀ y, node'.get? k = some y → Q y := by
  intro y hy
  obtain ⟨x, hx, hxy⟩ := some_of_rel_right (hn.get? k) hy
  exact hPQ x y hxy (hP x hx)

namespace Keyword

/-- A keyword accepts what is a rearrangement of a value that it accepts. -/
theorem accepts_of_rearranged {w w' : Value} (hw : w.Rearranged w') {k : Keyword}
    (h : k.Accepts node w) : k.Accepts node' w' := by
  have hbool {keyword : String} (hb : ∀ x, node.get? keyword = some x → x.IsBool) :
      ∀ y, node'.get? keyword = some y → y.IsBool :=
    forall_get?_of_matched hn (fun x y hxy hx => hxy.isBool hx) hb
  have hpattern {ms ns : Members} (hms : Matched ms ns) (hp : ∀ m ∈ ms, IsPattern m.1) :
      ∀ m ∈ ns, IsPattern m.1 :=
    hms.forall_mem (P := fun k _ => IsPattern k) (Q := fun k _ => IsPattern k)
      (fun _ _ _ _ hk => hk) hp
  have hnumber (hd : ∃ d, w.decimal? = some d) : ∃ d, w'.decimal? = some d := hw.decimal?_eq ▸ hd
  cases k with
  | additionalItems => exact h.imp hw.isBool hw.isSchema
  | additionalProperties =>
    rcases h with h | rfl | ⟨rfl, hschemas, hpatterns⟩
    · exact .inl (hw.isSchema h)
    · exact .inr (.inl (hw.of_leaf rfl))
    · refine .inr (.inr ⟨hw.of_leaf rfl, ?_, ?_⟩)
      · exact forall_get?_of_matched hn (fun x y hxy hx => hxy.isSchema hx) hschemas
      · refine forall_get?_of_matched hn ?_ hpatterns
        intro x y hxy hx
        obtain ⟨ms, rfl, hms⟩ := hx
        obtain ⟨ns, rfl, hns⟩ := hxy.of_obj
        exact ⟨ns, rfl, hpattern hns hms⟩
  | dependencies =>
    obtain ⟨ms, rfl, hms⟩ := h
    obtain ⟨ns, rfl, hns⟩ := hw.of_obj
    exact ⟨ns, rfl, hns.forall_mem (fun _ x y hxy hx => hxy.isDependency hx) hms⟩
  | disallow | type => exact hw.isTypes h
  | divisibleBy =>
    obtain ⟨d, hd, hpos⟩ := h
    exact ⟨d, hw.decimal?_eq ▸ hd, hpos⟩
  | enum =>
    obtain ⟨xs, rfl, hne⟩ := h
    obtain ⟨ys, rfl, hys⟩ := hw.of_arr
    refine ⟨ys, rfl, ?_⟩
    rintro rfl
    exact hne (List.eq_nil_of_length_eq_zero hys.length_eq)
  | extending | items => exact hw.isSchemaList h
  | format | reference => exact hw.isText h
  | maximum | minimum => exact ⟨hnumber h.1, hbool h.2⟩
  | maxItems | minItems | maxLength | minLength =>
    obtain ⟨n, hc⟩ := h
    exact ⟨n, hw.counts hc⟩
  | pattern =>
    obtain ⟨s, rfl, hs⟩ := h
    exact ⟨s, hw.of_leaf rfl, hs⟩
  | patternProperties =>
    obtain ⟨hmap, hpatterns⟩ := h
    refine ⟨hw.isSchemaMap hmap, ?_⟩
    rintro ns rfl
    obtain ⟨ms, rfl, hms⟩ := hw.symm.of_obj
    exact hpattern hms.symm (hpatterns ms rfl)
  | properties =>
    obtain ⟨hmap, hrequired⟩ := h
    refine ⟨hw.isSchemaMap hmap, ?_⟩
    rintro ns rfl
    obtain ⟨ms, rfl, hms⟩ := hw.symm.of_obj
    let P (_ : String) (x : Value) : Prop :=
      ∀ ps, x = .obj ps → ∀ r, Members.get? ps "required" = some r → r.IsBool
    refine hms.symm.forall_mem (P := P) (Q := P) ?_ (hrequired ms rfl)
    intro _ x y hxy hx ps hy
    obtain ⟨qs, rfl, hqs⟩ := (hy ▸ hxy.symm).of_obj
    exact forall_get?_of_matched hqs.symm (fun x y hxy hx => hxy.isBool hx) (hx qs rfl)
  | uniqueItems => exact hw.isBool h

/-- A keyword that holds of a value holds of what is a rearrangement of it, under any
rearrangement of the keyword's value and of the node. -/
theorem holds_of_rearranged {w w' v v' : Value} (hw : w.Rearranged w') (hv : v.Rearranged v')
    {k : Keyword} (h : k.Holds node w v) : k.Holds node' w' v' := by
  have hv' := hv.symm
  have hdecimal {x : Decimal} (hx : v'.decimal? = some x) : v.decimal? = some x :=
    hv.decimal?_eq.trans hx
  have hlimit {x : Decimal} (hx : w'.decimal? = some x) : w.decimal? = some x :=
    hw.decimal?_eq.trans hx
  cases k with
  | additionalItems =>
    rintro zs ys rfl hzs rfl
    obtain ⟨xs, rfl, hxs⟩ := hv'.of_arr
    obtain ⟨u, hu, huz⟩ := some_of_rel_right (hn.get? "items") hzs
    obtain ⟨us, rfl, hus⟩ := huz.symm.of_arr
    have hle := h us xs (hw.symm.of_leaf rfl) hu rfl
    rwa [hxs.length_eq, hus.length_eq]
  | additionalProperties =>
    rintro ns rfl rfl
    obtain ⟨ms, rfl, hms⟩ := hv'.of_obj
    let P (k : String) (_ : Value) : Prop := Covers node k
    let Q (k : String) (_ : Value) : Prop := Covers node' k
    have hcovers : ∀ m ∈ ms, P m.1 m.2 := h ms (hw.symm.of_leaf rfl) rfl
    exact hms.symm.forall_mem (Q := Q) (fun _ _ _ _ hk => covers_of_matched hn hk) hcovers
  | divisibleBy => exact fun x unit hx hu => h x unit (hdecimal hx) (hlimit hu)
  | enum =>
    obtain ⟨x, hx, hequal⟩ := h
    obtain ⟨y, hy, hxy⟩ := exists_of_forall₂_of_mem hw.listed hx
    exact ⟨y, hy, hv.equal hxy hequal⟩
  | format =>
    rintro f rfl hkind
    have hcheck := h f (hw.symm.of_leaf rfl) (hv.of?_eq ▸ hkind)
    -- no format is for values with members
    have hleaf : v.isLeaf := by
      obtain ⟨kind, hkind, hof⟩ := hkind
      rw [← hv.of?_eq] at hof
      cases v with
      | arr xs =>
        obtain rfl : Kind.array = kind := Option.some.inj hof
        cases f <;> simp [Format.kinds] at hkind
      | obj ms =>
        obtain rfl : Kind.object = kind := Option.some.inj hof
        cases f <;> simp [Format.kinds] at hkind
      | _ => rfl
    rw [hv.of_leaf hleaf]
    exact hcheck
  | maximum | minimum =>
    intro x limit hx hl
    obtain ⟨hle, hlt⟩ := h x limit (hdecimal hx) (hlimit hl)
    exact ⟨hle, fun he => hlt (hn.symm.get?_leaf rfl he)⟩
  | maxItems | minItems =>
    rintro n ys hc rfl
    obtain ⟨xs, rfl, hxs⟩ := hv'.of_arr
    have hle := h n xs (hw.symm.counts hc) rfl
    rwa [hxs.length_eq]
  | maxLength | minLength =>
    rintro n s hc rfl
    exact h n s (hw.symm.counts hc) (hv'.of_leaf rfl)
  | pattern =>
    rintro source s rfl rfl
    exact h source s (hw.symm.of_leaf rfl) (hv'.of_leaf rfl)
  | properties =>
    rintro qs ns rfl rfl name t ht hrequired
    obtain ⟨ps, rfl, hps⟩ := hw.symm.of_obj
    obtain ⟨ms, rfl, hms⟩ := hv'.of_obj
    obtain ⟨x, hx, htx⟩ := some_of_rel (hps.get? name) (get?_of_mem hps.nodup ht)
    obtain ⟨u, rfl, hu⟩ := htx.of_obj
    rw [hms.has_eq]
    exact h ps ms rfl rfl name u (mem_of_get? hx) (hu.get?_leaf rfl hrequired)
  | uniqueItems =>
    rintro ys rfl rfl
    obtain ⟨xs, rfl, hxs⟩ := hv'.of_arr
    obtain ⟨hlen, hxs⟩ := List.forall₂_iff_get.mp hxs
    have hpairs := List.pairwise_iff_getElem.mp (h xs (hw.symm.of_leaf rfl) rfl)
    refine List.pairwise_iff_getElem.mpr ?_
    intro i j hi hj hij
    have hne := hpairs i j (hlen ▸ hi) (hlen ▸ hj) hij
    rw [Bool.eq_false_iff] at hne ⊢
    intro heq
    exact hne ((hxs i hi (hlen ▸ hi)).equal (hxs j hj (hlen ▸ hj)) heq)
  | _ => trivial

end Keyword

end

end Conform
