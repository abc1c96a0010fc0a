import Conform.Proofs.Answer
import Conform.Proofs.Rearranged
import Conform.Toml.Reader

/-!
The tables of TOML documents. Whatever is read from one has no name twice in a table, at any
depth: a name is added to a table only while it is not there.
-/
namespace Conform.Toml

section
variable {ms ms' : Members} {name : String} {v : Value}

theorem distinct_addMember (hv : v.Distinct) (h : (Value.obj ms).Distinct)
    (hadd : addMember name v ms = some ms') : (Value.obj ms').Distinct := by
  unfold addMember at hadd
  split at hadd
  · cases hadd
  · obtain rfl := Option.some.inj hadd
    exact h.put hv

theorem distinct_append {xs : List Value} (hxs : (Value.arr xs).Distinct) (hv : v.Distinct) :
    (Value.arr (xs ++ [v])).Distinct := by
  refine .list ?_
  intro x hx
  rcases List.mem_append.mp hx with hx | hx
  · exact hxs.of_mem_arr hx
  · rw [List.mem_singleton.mp hx]
    exact hv

theorem distinct_addTable (h : (Value.obj ms).Distinct) (hadd : addTable name ms = some ms') :
    (Value.obj ms').Distinct := by
  unfold addTable at hadd
  split at hadd
  · obtain rfl := Option.some.inj hadd
    have hempty : (Value.arr []).Distinct := .list (by simp)
    exact h.put (distinct_append hempty .empty)
  · rename_i hxs
    obtain rfl := Option.some.inj hadd
    exact h.put (distinct_append (h.of_get? hxs) .empty)
  · cases hadd

/-- A change that keeps names distinct does so wherever it is made. -/
theorem distinct_changeTable {enterArrays : Bool} {change : Members → Option Members}
    (hchange : ∀ t t', (Value.obj t).Distinct → change t = some t' → (Value.obj t').Distinct)
    {key : Key} (h : (Value.obj ms).Distinct)
    (hms : changeTable enterArrays change key ms = some ms') : (Value.obj ms').Distinct := by
  induction key generalizing ms ms' with
  | nil => exact hchange ms ms' h hms
  | cons k ks ih =>
    unfold changeTable at hms
    split at hms
    · obtain ⟨t, ht, rfl⟩ := Option.map_eq_some_iff.mp hms
      exact h.put (ih .empty ht)
    · rename_i hx
      obtain ⟨t, ht, rfl⟩ := Option.map_eq_some_iff.mp hms
      exact h.put (ih (h.of_get? hx) ht)
    · rename_i xs hx
      have hxs := h.of_get? hx
      split at hms
      · rename_i t hlast
        obtain ⟨t', ht, rfl⟩ := Option.map_eq_some_iff.mp hms
        have hdropped : (Value.arr xs.dropLast).Distinct :=
          .list fun x hx => hxs.of_mem_arr (List.dropLast_subset xs hx)
        exact h.put (distinct_append hdropped
          (ih (hxs.of_mem_arr (List.mem_of_getLast? hlast)) ht))
      · cases hms
    · cases hms

end

section
variable {cs rest : List Char} {v : Value}

theorem isLeaf_moment? {r : Except Problem (Value × List Char)} (hr : moment? cs = some r)
    (h : r = .ok (v, rest)) : v.isLeaf := by
  subst h
  unfold moment? at hr
  split at hr
  · have hread := Option.some.inj hr
    split at hread
    · obtain ⟨rfl, _⟩ := Prod.mk.inj (Except.ok.inj hread)
      rfl
    · cases hread
  · obtain ⟨_, _, hread⟩ := Option.map_eq_some_iff.mp hr
    obtain ⟨rfl, _⟩ := Prod.mk.inj (Except.ok.inj hread)
    rfl

theorem isLeaf_radixNumber? (h : radixNumber? cs = some (v, rest)) : v.isLeaf := by
  unfold radixNumber? at h
  split at h
  · simp only [Option.bind_eq_bind, Option.bind_eq_some_iff, Option.pure_def, Option.some.injEq,
      Prod.mk.injEq] at h
    obtain ⟨_, _, _, _, rfl, _⟩ := h
    rfl
  · cases h

theorem isLeaf_decimalNumber? (h : decimalNumber? cs = some (.ok (v, rest))) : v.isLeaf := by
  simp only [decimalNumber?, Option.bind_eq_bind, Option.pure_def] at h
  -- a number begins with a zero alone, or with any digits
  split at h
  all_goals
    obtain ⟨_, _, h⟩ := Option.bind_eq_some_iff.mp h
    split at h
    · have hread := Option.some.inj h
      split at hread
      · cases hread
      · obtain ⟨rfl, _⟩ := Prod.mk.inj (Except.ok.inj hread)
        rfl
    · obtain ⟨rfl, _⟩ := Prod.mk.inj (Except.ok.inj (Option.some.inj h))
      rfl

theorem isLeaf_specialNumber? (h : specialNumber? cs = some (v, rest)) : v.isLeaf := by
  unfold specialNumber? at h
  -- with a minus, with a plus, and without a sign
  split at h
  all_goals
    split at h
    · obtain ⟨rfl, _⟩ := Prod.mk.inj (Option.some.inj h)
      rfl
    · split at h
      · obtain ⟨rfl, _⟩ := Prod.mk.inj (Option.some.inj h)
        rfl
      · cases h

/-- Numbers, dates and times have no members. -/
theorem isLeaf_numberOrMoment (h : numberOrMoment cs = .ok (v, rest)) : v.isLeaf := by
  unfold numberOrMoment at h
  split at h
  · rename_i hr
    exact isLeaf_moment? hr h
  · split at h
    · rename_i hr
      rw [Except.ok.inj h] at hr
      exact isLeaf_radixNumber? hr
    · split at h
      · rename_i hr
        rw [h] at hr
        exact isLeaf_decimalNumber? hr
      · split at h
        · rename_i hr
          rw [Except.ok.inj h] at hr
          exact isLeaf_specialNumber? hr
        · cases h

end

section
variable {fuel : Nat} {cs rest : List Char}

theorem distinct_assign {t t' : Inline} {k : Key} {v : Value} (hv : v.Distinct)
    (h : (Value.obj t.members).Distinct) (hassign : t.assign k v rest = .ok t') :
    (Value.obj t'.members).Distinct := by
  unfold Inline.assign at hassign
  dsimp only at hassign
  split at hassign
  · cases hassign
  · split at hassign
    · cases hassign
    · split at hassign
      · cases hassign
      · rename_i hmembers
        obtain rfl := Except.ok.inj hassign
        exact distinct_changeTable (fun _ _ => distinct_addMember hv) h hmembers

/-- The values read with some fuel. -/
structure ReadsDistinct (fuel : Nat) : Prop where
  value : ∀ cs v rest, Toml.value fuel cs = .ok (v, rest) → v.Distinct
  elements : ∀ cs xs rest, Toml.elements fuel cs = .ok (xs, rest) → (Value.arr xs).Distinct
  inlineMembers : ∀ t cs v rest, (Value.obj t.members).Distinct →
    Toml.inlineMembers fuel t cs = .ok (v, rest) → v.Distinct
  pair : ∀ cs k v rest, Toml.pair fuel cs = .ok (k, v, rest) → v.Distinct

namespace ReadsDistinct

variable {v : Value} (ih : ReadsDistinct fuel)

include ih

/-- A value is a leaf, an array of what is read as its elements, or what is read as inline
members. -/
theorem value_succ (h : Toml.value (fuel + 1) cs = .ok (v, rest)) : v.Distinct := by
  have htext {r : Except Problem (List Char × List Char)}
      (h : (r.map fun p => (Value.str (String.ofList p.1), p.2)) = .ok (v, rest)) :
      v.Distinct := by
    obtain ⟨_, _, hread⟩ := Answer.map_ok.mp h
    obtain ⟨rfl, _⟩ := Prod.mk.inj hread
    exact .leaf rfl
  unfold Toml.value at h
  split at h
  · exact htext h
  · exact htext h
  · exact htext h
  · exact htext h
  · obtain ⟨rfl, _⟩ := Prod.mk.inj (Except.ok.inj h)
    exact .leaf rfl
  · obtain ⟨rfl, _⟩ := Prod.mk.inj (Except.ok.inj h)
    exact .leaf rfl
  -- an array
  · obtain ⟨_, _, h⟩ := Answer.do_ok.mp h
    split at h
    · obtain ⟨rfl, _⟩ := Prod.mk.inj (Except.ok.inj h)
      exact .list (by simp)
    · obtain ⟨⟨xs, _⟩, hxs, h⟩ := Answer.do_ok.mp h
      obtain ⟨rfl, _⟩ := Prod.mk.inj (Except.ok.inj h)
      exact ih.elements _ _ _ hxs
  -- an inline table
  · dsimp only at h
    split at h
    · obtain ⟨rfl, _⟩ := Prod.mk.inj (Except.ok.inj h)
      exact .empty
    · exact ih.inlineMembers _ _ _ _ .empty h
  · exact .leaf (isLeaf_numberOrMoment h)

theorem elements_succ {xs : List Value} (h : Toml.elements (fuel + 1) cs = .ok (xs, rest)) :
    (Value.arr xs).Distinct := by
  unfold Toml.elements at h
  obtain ⟨⟨x, _⟩, hx, h⟩ := Answer.do_ok.mp h
  have hdistinct := ih.value _ _ _ hx
  have hone : (Value.arr [x]).Distinct := .list (by simpa using hdistinct)
  obtain ⟨_, _, h⟩ := Answer.do_ok.mp h
  split at h
  · obtain ⟨rfl, _⟩ := Prod.mk.inj (Except.ok.inj h)
    exact hone
  -- after a comma the array may end all the same
  · obtain ⟨_, _, h⟩ := Answer.do_ok.mp h
    split at h
    · obtain ⟨rfl, _⟩ := Prod.mk.inj (Except.ok.inj h)
      exact hone
    · obtain ⟨⟨ys, _⟩, hys, h⟩ := Answer.do_ok.mp h
      obtain ⟨rfl, _⟩ := Prod.mk.inj (Except.ok.inj h)
      have hrest := ih.elements _ _ _ hys
      exact .list (List.forall_mem_cons.mpr ⟨hdistinct, fun _ => hrest.of_mem_arr⟩)
  · cases h

theorem inlineMembers_succ {t : Inline} (ht : (Value.obj t.members).Distinct)
    (h : Toml.inlineMembers (fuel + 1) t cs = .ok (v, rest)) : v.Distinct := by
  unfold Toml.inlineMembers at h
  obtain ⟨⟨k, x, _⟩, hx, h⟩ := Answer.do_ok.mp h
  obtain ⟨t', ht', h⟩ := Answer.do_ok.mp h
  have hdistinct := distinct_assign (ih.pair _ _ _ _ hx) ht ht'
  split at h
  · obtain ⟨rfl, _⟩ := Prod.mk.inj (Except.ok.inj h)
    exact hdistinct
  · refine ih.inlineMembers _ _ _ _ ?_ h
    unfold Inline.freeze
    split <;> exact hdistinct
  · cases h

theorem pair_succ {k : Key} (h : Toml.pair (fuel + 1) cs = .ok (k, v, rest)) : v.Distinct := by
  unfold Toml.pair at h
  obtain ⟨⟨_, _⟩, _, h⟩ := Answer.do_ok.mp h
  dsimp only at h
  split at h
  · obtain ⟨⟨x, _⟩, hx, h⟩ := Answer.do_ok.mp h
    obtain ⟨_, hrest⟩ := Prod.mk.inj (Except.ok.inj h)
    obtain ⟨rfl, _⟩ := Prod.mk.inj hrest
    exact ih.value _ _ _ hx
  · cases h

end ReadsDistinct

/-- The four readers call each other, so the induction on the fuel is about all of them. -/
theorem readsDistinct (fuel : Nat) : ReadsDistinct fuel := by
  induction fuel with
  | zero =>
    refine ⟨?_, ?_, ?_, ?_⟩
    · intro cs v rest h
      cases h
    · intro cs v rest h
      cases h
    · intro t cs v rest _ h
      cases h
    · intro cs v rest _ h
      cases h
  | succ fuel ih =>
    exact ⟨fun _ _ _ => ih.value_succ, fun _ _ _ => ih.elements_succ,
      fun _ _ _ _ => ih.inlineMembers_succ, fun _ _ _ _ => ih.pair_succ⟩

end

section
variable {d d' : Draft} {key : Key} {rest : List Char}

theorem distinct_openTable (h : (Value.obj d.tables).Distinct)
    (hopen : d.openTable key rest = .ok d') : (Value.obj d'.tables).Distinct := by
  unfold Draft.openTable at hopen
  split at hopen
  · cases hopen
  · dsimp only at hopen
    split at hopen
    · rename_i htables
      obtain rfl := Except.ok.inj hopen
      refine distinct_changeTable ?_ h htables
      intro t t' ht hsame
      obtain rfl := Option.some.inj hsame
      exact ht
    · cases hopen

theorem distinct_openElement (h : (Value.obj d.tables).Distinct)
    (hopen : d.openElement key rest = .ok d') : (Value.obj d'.tables).Distinct := by
  unfold Draft.openElement at hopen
  split at hopen
  · cases hopen
  · dsimp only at hopen
    split at hopen
    · rename_i htables
      obtain rfl := Except.ok.inj hopen
      exact distinct_changeTable (fun _ _ => distinct_addTable) h htables
    · cases hopen

theorem tables_imply {above : Key} {parts : List Key}
    (himply : Draft.imply above rest parts d = .ok d') : d'.tables = d.tables := by
  induction parts generalizing d with
  | nil => rw [Except.ok.inj himply]
  | cons part parts ih =>
    simp only [Draft.imply] at himply
    split at himply
    · cases himply
    · have htables := ih himply
      exact htables

theorem distinct_assignBelow {above : Key} {v : Value} (hv : v.Distinct)
    (h : (Value.obj d.tables).Distinct) (hassign : d.assign above key v rest = .ok d') :
    (Value.obj d'.tables).Distinct := by
  simp only [Draft.assign] at hassign
  obtain ⟨implied, himplied, hassign⟩ := Answer.do_ok.mp hassign
  rw [← tables_imply himplied] at h
  split at hassign
  · cases hassign
  · split at hassign
    · cases hassign
    · rename_i htables
      obtain rfl := Except.ok.inj hassign
      have htables := distinct_changeTable (fun _ _ => distinct_addMember hv) h htables
      split <;> exact htables

theorem distinct_header {cs : List Char} {above : Key} (h : (Value.obj d.tables).Distinct)
    (hheader : header d cs = .ok (d', above, rest)) : (Value.obj d'.tables).Distinct := by
  unfold header at hheader
  split at hheader
  · obtain ⟨⟨_, _⟩, _, hheader⟩ := Answer.do_ok.mp hheader
    obtain ⟨_, hopen, hheader⟩ := Answer.do_ok.mp hheader
    split at hheader
    · obtain ⟨rfl, _⟩ := Prod.mk.inj (Except.ok.inj hheader)
      exact distinct_openElement h hopen
    · cases hheader
  · obtain ⟨⟨_, _⟩, _, hheader⟩ := Answer.do_ok.mp hheader
    obtain ⟨_, hopen, hheader⟩ := Answer.do_ok.mp hheader
    split at hheader
    · obtain ⟨rfl, _⟩ := Prod.mk.inj (Except.ok.inj hheader)
      exact distinct_openTable h hopen
    · cases hheader

/-- What a statement makes of the tables read so far. -/
theorem distinct_statement {above above' : Key} {cs : List Char}
    (h : (Value.obj d.tables).Distinct) (hread : statement d above cs = .ok (d', above', rest)) :
    (Value.obj d'.tables).Distinct := by
  unfold statement at hread
  split at hread
  · obtain ⟨⟨_, _, _⟩, hheader, hread⟩ := Answer.do_ok.mp hread
    obtain ⟨rfl, _⟩ := Prod.mk.inj (Except.ok.inj hread)
    have hsettled : (Value.obj d.settle.tables).Distinct := h
    exact distinct_header hsettled hheader
  · split at hread
    · obtain ⟨⟨_, _, _⟩, hpair, hread⟩ := Answer.do_ok.mp hread
      obtain ⟨_, hassign, hread⟩ := Answer.do_ok.mp hread
      obtain ⟨rfl, _⟩ := Prod.mk.inj (Except.ok.inj hread)
      exact distinct_assignBelow ((readsDistinct _).pair _ _ _ _ hpair) h hassign
    · split at hread
      · obtain ⟨rfl, _⟩ := Prod.mk.inj (Except.ok.inj hread)
        exact h
      · cases hread
  · obtain ⟨rfl, _⟩ := Prod.mk.inj (Except.ok.inj hread)
    exact h

end

theorem distinct_statements {fuel : Nat} {d : Draft} {above : Key} {cs : List Char} {ms : Members}
    (h : (Value.obj d.tables).Distinct) (hread : statements fuel d above cs = .ok ms) :
    (Value.obj ms).Distinct := by
  induction fuel generalizing d above cs with
  | zero =>
    obtain rfl := Except.ok.inj hread
    exact h
  | succ fuel ih =>
    unfold statements at hread
    split at hread
    · obtain rfl := Except.ok.inj hread
      exact h
    · exact ih h hread
    · obtain ⟨⟨d', above', rest⟩, hstatement, hread⟩ := Answer.do_ok.mp hread
      have hd := distinct_statement h hstatement
      obtain ⟨_, _, hread⟩ := Answer.do_ok.mp hread
      split at hread
      · obtain rfl := Except.ok.inj hread
        exact hd
      · exact ih hd hread
      · cases hread

/-- The tables of a document. -/
theorem distinct_read {text : String} {ms : Members} (h : read text = .ok ms) :
    (Value.obj ms).Distinct := by
  simp only [read] at h
  split at h
  · rename_i hread
    obtain rfl := Except.ok.inj h
    exact distinct_statements .empty hread
  · cases h
  · cases h

end Conform.Toml
