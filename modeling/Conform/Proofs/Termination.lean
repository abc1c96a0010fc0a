import Conform.Proofs.Children
import Conform.Proofs.Dispatch
import Conform.Proofs.Trail
import Conform.Validator
import Mathlib.Logic.Relation
import Mathlib.Tactic.Ring

/-!
Judging ends. With the known keywords a site has only those sites judged that it leads to, each of
them below it. The fuel of a site exceeds the number of descents that this order leaves room for,
so that what lies at the bottom of the fuel never counts.
-/
namespace Conform

namespace Keyword

/-- The parts that a list of schemas is built to are smaller than the node. -/
theorem size_lt_of_mem_parts {node : Members} {keyword : String} {w : Value} {parts : List Part}
    {p : Part} (hw : node.get? keyword = some w)
    (hsub : ∀ t ∈ parts.map (·.schema), t ∈ w.listed) (hp : p ∈ parts) :
    p.schema.size < (Value.obj node).size := by
  have hle := Value.size_le_of_mem_listed (hsub _ (List.mem_map.mpr ⟨p, hp, rfl⟩))
  have hlt := Value.size_lt_of_get? hw
  omega

/-- The sites that the logic of a built keyword may have judged are led to. -/
theorem leads_of_calls {e : Setting} {s t : Site} {node : Members} {l : Logic}
    (hloops : e.loops ≠ .follow) (hs : s.schema = .obj node) (hl : Makes node (.logic l))
    (ht : t ∈ l.calls e s) : s.Leads e.documents t := by
  cases hl with
  | test => simp [Logic.calls] at ht
  | unknownFormat => simp [Logic.calls] at ht
  | types negated hw hparts =>
    obtain ⟨p, hp, rfl⟩ := List.mem_map.mp ht
    have hlt : p.schema.size < s.schema.size := by
      rw [hs]
      apply size_lt_of_mem_parts hw _ hp
      intro u hu
      rw [hparts] at hu
      exact (List.mem_filter.mp hu).1
    exact .part hlt _ false
  | extending hw hparts =>
    obtain ⟨p, hp, rfl⟩ := List.mem_map.mp ht
    have hlt : p.schema.size < s.schema.size := by
      rw [hs]
      apply size_lt_of_mem_parts hw _ hp
      intro u hu
      rwa [(Expect.schemas_ok hparts).2] at hu
    exact .part hlt _ s.pooled
  | @dependencies ms required schemas hw hd =>
    simp only [Logic.calls] at ht
    split at ht
    · obtain ⟨m, hm, rfl⟩ := List.mem_map.mp ht
      have hmem := ((dependencyList_ok hd).schemas m).mp (List.mem_filter.mp hm).1
      have hlt : m.2.size < s.schema.size := by
        rw [hs]
        have hm := Value.size_lt_of_mem_obj hmem.1
        have hms := Value.size_lt_of_get? hw
        omega
      exact .part hlt _ s.pooled
    · simp at ht
  | reference hw =>
    simp only [Logic.calls] at ht
    split at ht
    · rename_i location target hr
      split at ht
      · simp at ht
      · rename_i hnew
        obtain rfl := List.mem_singleton.mp ht
        refine .target hr ?_
        simpa [hloops] using hnew
    · simp at ht

end Keyword

namespace Checker

variable {e : Setting} {s t : Site}

theorem mem_calls_all {cs : List Checker} (h : t ∈ callsAll e cs) : ∃ c ∈ cs, t ∈ c.calls e := by
  induction cs with
  | nil => simp [callsAll] at h
  | cons c cs ih =>
    rcases List.mem_append.mp h with h | h
    · exact ⟨c, List.mem_cons_self, h⟩
    · obtain ⟨d, hd, h⟩ := ih h
      exact ⟨d, List.mem_cons_of_mem _ hd, h⟩

theorem mem_calls_allOf {cs : List Checker} (h : t ∈ (allOf cs).calls e) :
    ∃ c ∈ cs, t ∈ c.calls e := by
  match cs, h with
  | [], h => simp [allOf, calls] at h
  | [c], h => exact ⟨c, List.mem_singleton.mpr rfl, h⟩
  | c :: d :: cs, h => exact mem_calls_all h

theorem mem_calls_wrap {kind : Kind} {c : Checker} (h : t ∈ (wrap s kind c).calls e) :
    t ∈ c.calls e ∨ ((kind = .array ∨ kind = .object) ∧ t ∈ childCalls kind s) := by
  have hcontainer (hkind : kind = .array ∨ kind = .object)
      (h : t ∈ (container kind c s).calls e) :
      t ∈ c.calls e ∨ ((kind = .array ∨ kind = .object) ∧ t ∈ childCalls kind s) :=
    (List.mem_append.mp h).imp id fun h => ⟨hkind, h⟩
  cases kind with
  | array => exact hcontainer (.inl rfl) h
  | object => exact hcontainer (.inr rfl) h
  | _ => exact .inl h

theorem leads_of_childCalls {d : Documents} {node : Members} {kind : Kind}
    (hs : s.schema = .obj node) (hk : s.kind = .ok kind) (hkind : kind = .array ∨ kind = .object)
    (hitems : kind = .array → ∀ w, node.get? "items" = some w → w.IsSchemaList)
    (ht : t ∈ childCalls kind s) : s.Leads d t := by
  unfold childCalls at ht
  split at ht
  · rename_i jobs hjobs
    obtain ⟨j, hj, rfl⟩ := List.mem_map.mp ht
    have hgoverns := (Job.mem_ofSite hs hk hkind hitems hjobs (c := (j.token, j.value))).mp
      ⟨j, hj, rfl, rfl⟩
    refine .child hgoverns.1 ?_ j.schema.steps
    rw [hs]
    exact hgoverns.2.size_lt
  · simp at ht

end Checker

namespace Setting

/-- With the known keywords, what comes up in judging a site is called by the logic of a keyword of
its node, or is a child of its value where all keywords can be built. -/
theorem calls_cases {e : Setting} {s t : Site} (hv : e.vocabulary = .known)
    (ht : t ∈ e.calls s) :
    ∃ node, s.schema = .obj node ∧
      ((∃ k l, Keyword.build k node = .ok (.logic l) ∧ t ∈ l.calls e s) ∨
        ∃ kind, s.kind = .ok kind ∧ (kind = .array ∨ kind = .object) ∧
          (∀ k ∈ Keyword.selected node kind, ∃ b, k.build node = .ok b) ∧
          t ∈ Checker.childCalls kind s) := by
  unfold calls at ht
  rcases hsite : Checker.forSite e.vocabulary s with ⟨notes, f | c⟩
  · simp [hsite] at ht
  · rw [hsite] at ht
    rcases forSite_known_cases hv hsite with rfl | ⟨d, rfl⟩ | ⟨node, kind, hs, hk, hbuilt, rfl⟩
    · simp [Checker.calls] at ht
    · simp [Checker.calls] at ht
    · refine ⟨node, hs, ?_⟩
      rcases Checker.mem_calls_wrap ht with ht | ⟨hkind, ht⟩
      · obtain ⟨c, hc, ht⟩ := Checker.mem_calls_allOf ht
        obtain ⟨k, _, rfl⟩ := List.mem_map.mp hc
        unfold Keyword.checker at ht
        split at ht
        · rename_i l hl
          exact .inl ⟨k, l, hl, ht⟩
        · simp [Checker.calls] at ht
      · exact .inr ⟨kind, hk, hkind, hbuilt, ht⟩

/-- With the known keywords, whatever comes up in judging a site is led to. -/
theorem leads_of_calls {e : Setting} {s t : Site} (hv : e.vocabulary = .known)
    (hloops : e.loops ≠ .follow) (ht : t ∈ e.calls s) : s.Leads e.documents t := by
  obtain ⟨node, hs, ⟨k, l, hl, ht⟩ | ⟨kind, hk, hkind, hbuilt, ht⟩⟩ := calls_cases hv ht
  · exact Keyword.leads_of_calls hloops hs (Keyword.makes_of_build hl) ht
  · refine Checker.leads_of_childCalls hs hk hkind ?_ ht
    intro h w hw
    obtain rfl := h
    exact Keyword.isSchemaList_items hbuilt hw

/-- A bound on the number of rounds below a site: the number that the measure stands for. -/
def rank (e : Setting) (bound : Nat) (s : Site) : Nat :=
  s.value.size * ((e.positions + 1) * (bound + 1)) +
    e.documents.unseen s.visited * (bound + 1) + s.schema.size

theorem unseen_le_positions (e : Setting) (seen : List Location) :
    e.documents.unseen seen ≤ e.positions :=
  (List.length_filter_le _ _).trans e.documents.length_locations_le

theorem rank_lt_of_below {e : Setting} {bound : Nat} {s t : Site} (h : t.Below e.documents s)
    (ht : t.schema.size ≤ bound) : e.rank bound t < e.rank bound s := by
  have hunseen := e.unseen_le_positions t.visited
  -- what the lower components can make up for is less than one step of the value
  have hrest : e.documents.unseen t.visited * (bound + 1) + t.schema.size <
      (e.positions + 1) * (bound + 1) := by
    have hmul := Nat.mul_le_mul_right (bound + 1) hunseen
    rw [Nat.add_one_mul]
    omega
  rcases Prod.lex_def.mp h with hvalue | ⟨hvalue, h⟩
  · have hmul := Nat.mul_le_mul_right ((e.positions + 1) * (bound + 1))
      (Nat.succ_le_of_lt hvalue)
    rw [Nat.succ_mul] at hmul
    simp only [Site.measure] at hmul
    unfold rank
    omega
  · simp only [Site.measure] at hvalue h
    rcases Prod.lex_def.mp h with hseen | ⟨hseen, hschema⟩
    -- the value stays, one more node has been seen
    · have hmul := Nat.mul_le_mul_right (bound + 1) (Nat.succ_le_of_lt hseen)
      rw [Nat.succ_mul] at hmul
      simp only at hmul
      unfold rank
      rw [hvalue]
      omega
    · unfold rank
      simp only at hseen hschema
      rw [hvalue, hseen]
      omega

/-- The nodes that a site leads to are no larger than its own and those of the documents. -/
theorem size_le_of_leads {e : Setting} {bound : Nat} {s t : Site} (h : s.Leads e.documents t)
    (hs : s.schema.size ≤ bound) (hp : e.positions ≤ bound) : t.schema.size ≤ bound := by
  cases h with
  | part hlt => exact hlt.le.trans hs
  | target hr => exact (Documents.size_le_of_resolve hr).trans hp
  | child hc hlt => exact hlt.le.trans hs

theorem rank_lt_fuelFor (e : Setting) (s : Site) :
    e.rank (max s.schema.size e.positions) s < e.fuelFor s := by
  have hunseen := e.unseen_le_positions s.visited
  have hschema : s.schema.size ≤ max s.schema.size e.positions := le_max_left _ _
  unfold rank fuelFor
  generalize max s.schema.size e.positions = bound at hschema ⊢
  have hmul := Nat.mul_le_mul_right (bound + 1) hunseen
  calc s.value.size * ((e.positions + 1) * (bound + 1)) +
        e.documents.unseen s.visited * (bound + 1) + s.schema.size
      < s.value.size * ((e.positions + 1) * (bound + 1)) +
        (e.positions * (bound + 1) + (bound + 1)) := by omega
    _ = (s.value.size + 1) * (e.positions + 1) * (bound + 1) := by ring

/-- More rounds than the rank of a site come to the same, whatever judges beyond them. -/
theorem rounds_eq {e : Setting} (hv : e.vocabulary = .known) (hloops : e.loops ≠ .follow)
    {bound : Nat} (hp : e.positions ≤ bound) (J K : Judge) {n m : Nat} {s : Site}
    (htrail : s.OnTrail e.documents) (hs : s.schema.size ≤ bound) (hn : e.rank bound s < n)
    (hm : e.rank bound s < m) : e.rounds J n s = e.rounds K m s := by
  -- the induction is on the fuel of one side; the ranks bound that of the other
  induction n generalizing m s with
  | zero => omega
  | succ n ih =>
    obtain ⟨m, rfl⟩ : ∃ k, m = k + 1 := ⟨m - 1, by omega⟩
    apply e.round_congr
    intro t ht
    -- whatever comes up is below, and so of a rank that both fuels still exceed
    have hst := leads_of_calls hv hloops ht
    have hsize := size_le_of_leads hst hs hp
    have hlt := rank_lt_of_below (hst.below htrail) hsize
    exact ih (hst.onTrail htrail) hsize (by omega) (by omega)

/-- The fuel of a site is enough: with any more rounds, and whatever judges beyond them, judging
comes to the same. -/
theorem rounds_fuelFor {e : Setting} (hv : e.vocabulary = .known) (hloops : e.loops ≠ .follow)
    {s : Site} (htrail : s.OnTrail e.documents) (J : Judge) {n : Nat} (hn : e.fuelFor s ≤ n) :
    e.rounds J n s = e.judgeSite s := by
  have hrank := e.rank_lt_fuelFor s
  unfold judgeSite
  rw [judge_eq_rounds]
  exact rounds_eq hv hloops (le_max_right _ _) J _ htrail (le_max_left _ _) (by omega) hrank

/-- The sites that come up in judging a site, at whatever depth. -/
def Reaches (e : Setting) : Site → Site → Prop := Relation.ReflTransGen fun s t => t ∈ e.calls s

theorem onTrail_of_reaches {e : Setting} {s t : Site} (hv : e.vocabulary = .known)
    (hloops : e.loops ≠ .follow) (h : e.Reaches s t) (hs : s.OnTrail e.documents) :
    t.OnTrail e.documents := by
  induction h with
  | refl => exact hs
  | tail _ hcall ih => exact (leads_of_calls hv hloops hcall).onTrail ih

end Setting

namespace Validator

/-- Validation ends for every schema, all documents and every value. At each site that comes up
the trail lists no target twice and is no longer than the documents have nodes, all targets having
been visited at the path of the site; a round there depends on the judge of further sites only at
its calls, and each of these is smaller. So there is no endless descent, and the fuel that
validation starts with is as good as any more, whatever is to happen when it runs out. -/
theorem judging_ends (schema : Value) (d : Documents) (o : Options) (l : Location) (x : Value) :
    let v : Validator := ⟨schema, ⟨.known, d, o, .report⟩, l⟩
    (∀ s, v.setting.Reaches (v.site x) s →
      (s.trail.Nodup ∧ s.trail.length ≤ d.locations.length ∧
        ∀ t ∈ s.trail, t.1 ∈ d.locations ∧ t.2 = s.path) ∧
      (∀ J K : Judge, (∀ t ∈ v.setting.calls s, J t = K t) →
        v.setting.round J s = v.setting.round K s) ∧
      ∀ t ∈ v.setting.calls s,
        Prod.Lex (· < ·) (Prod.Lex (· < ·) (· < ·))
          (t.value.size, d.unseen t.visited, t.schema.size)
          (s.value.size, d.unseen s.visited, s.schema.size)) ∧
    Acc (fun t s => t ∈ v.setting.calls s) (v.site x) ∧
    ∀ (J : Judge) (n : Nat), v.setting.fuelFor (v.site x) ≤ n →
      v.setting.rounds J n (v.site x) = v.setting.judgeSite (v.site x) := by
  intro v
  have hloops : v.setting.loops ≠ .follow := fun h => nomatch h
  have hroot : (v.site x).OnTrail d := .of_trail_eq_nil rfl
  have hbelow {s t : Site} (hs : s.OnTrail d) (ht : t ∈ v.setting.calls s) :
      t.OnTrail d ∧ t.Below d s := by
    have hst : s.Leads d t := Setting.leads_of_calls rfl hloops ht
    exact ⟨hst.onTrail hs, hst.below hs⟩
  refine ⟨?_, ?_, ?_⟩
  · intro s hs
    have htrail : s.OnTrail d := Setting.onTrail_of_reaches rfl hloops hs hroot
    refine ⟨⟨htrail.nodup, htrail.length_trail_le, ?_⟩, ?_, ?_⟩
    · intro t ht
      exact ⟨htrail.targets t ht, htrail.paths t ht⟩
    · intro J K h
      exact v.setting.round_congr h
    · intro t ht
      exact (hbelow htrail ht).2
  · -- the order of measures carries over, as every site on the way keeps a trail
    generalize v.site x = s at hroot
    induction s using Site.wellFounded_below.induction (r := Site.Below d) with
    | _ s ih =>
      constructor
      intro t ht
      obtain ⟨htrail, hlt⟩ := hbelow hroot ht
      exact ih t hlt htrail
  · intro J n hn
    exact Setting.rounds_fuelFor rfl hloops hroot J hn

end Validator

end Conform
