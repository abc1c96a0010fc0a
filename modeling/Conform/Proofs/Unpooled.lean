import Conform.Proofs.Calls
import Conform.Proofs.Dispatch
import Conform.Proofs.Termination

/-!
Sites without a pool. A vocabulary is blind if no builder and no logic of it looks at whether there
is a pool; the known keywords are. Dispatch with such a vocabulary makes the same checker with or
without a pool, up to the pools of its sites. Only logic that judges further nodes at the same
place hands a pool on, so that whatever comes up in judging a site without one has none either.
-/
namespace Conform

namespace Site

def unpooled (s : Site) : Site := { s with pooled := false }

theorem unpooled_of {s : Site} (h : s.pooled = false) : s.unpooled = s := by
  obtain ⟨schema, value, path, location, trail, pooled⟩ := s
  simp only at h
  subst h
  rfl

end Site

/-- Logic that does not look at the pool. -/
def Logic.Blind : Logic → Prop
  | .told answer => ∀ s, answer s.unpooled = answer s
  | _ => True

namespace Checker

mutual

/-- The checker with no pool at any of its sites. -/
def unpooled : Checker → Checker
  | .always => .always
  | .never reason => .never reason
  | .single keyword logic s => .single keyword logic s.unpooled
  | .all members => .all (unpooledAll members)
  | .container kind node s => .container kind (unpooled node) s.unpooled
  | .stray t => .stray t

def unpooledAll : List Checker → List Checker
  | [] => []
  | c :: cs => unpooled c :: unpooledAll cs

end

mutual

def Blind : Checker → Prop
  | .single _ logic _ => logic.Blind
  | .all members => BlindAll members
  | .container _ node _ => Blind node
  | _ => True

def BlindAll : List Checker → Prop
  | [] => True
  | c :: cs => Blind c ∧ BlindAll cs

end

end Checker

namespace Built

def unpooled : Built → Built
  | .checker c => .checker c.unpooled
  | .logic l => .logic l
  | .plain t => .plain t

def Blind : Built → Prop
  | .checker c => c.Blind
  | .logic l => l.Blind
  | .plain _ => True

end Built

/-- A builder to which a pool makes no difference: it makes the same with and without one, hands
none on but the one of its site, and makes only logic that does not look at it. -/
structure Builder.Blind (b : Builder) : Prop where
  unpooled : ∀ s, (b s.unpooled).2 = (b s).2.map Built.unpooled
  built : ∀ s x, (b s).2 = .ok x → x.Blind

namespace Keyword

theorem builder_snd (k : Keyword) (s : Site) : (k.builder s).2 = s.node.bind k.build := by
  unfold builder
  cases s.node.bind k.build <;> rfl

/-- The known keywords only look at the schema node. -/
theorem blind_builder (k : Keyword) : k.builder.Blind := by
  refine ⟨?_, ?_⟩
  · intro s
    have hnode : s.unpooled.node = s.node := rfl
    rw [builder_snd, builder_snd, hnode]
    cases hb : s.node.bind k.build with
    | error f => rfl
    | ok b =>
      obtain ⟨node, _, hb⟩ := Answer.bind_ok.mp hb
      cases makes_of_build hb <;> rfl
  · intro s b hb
    rw [builder_snd] at hb
    obtain ⟨node, _, hb⟩ := Answer.bind_ok.mp hb
    cases makes_of_build hb <;> trivial

end Keyword

namespace Vocabulary

/-- Every builder of the vocabulary is blind. -/
def Blind (v : Vocabulary) : Prop := ∀ x ∈ v.entries, x.builder.Blind

/-- The known vocabulary, with any further builders that are blind. -/
theorem blind_of_known {v : Vocabulary}
    (h : ∀ x ∈ v.entries, x ∈ known.entries ∨ x.builder.Blind) : v.Blind := by
  intro x hx
  rcases h x hx with hknown | hblind
  · rw [Keyword.known_entries] at hknown
    obtain ⟨⟨k, i⟩, _, rfl⟩ := List.mem_map.mp hknown
    exact k.blind_builder
  · exact hblind

theorem mem_put {es : List Entry} {name : String} {kinds : List Kind} {b : Builder} {i : Nat}
    {x : Entry} (h : x ∈ put es name kinds b i) : x ∈ es ∨ x.builder = b := by
  have hput : ∀ y ∈ put es name kinds b i, y ∈ es ∨ y.builder = b :=
    forall_put (fun _ hy => .inl hy) fun _ => .inr rfl
  exact hput x h

end Vocabulary

namespace Checker

variable {s : Site}

theorem unpooledAll_eq_map (cs : List Checker) : unpooledAll cs = cs.map unpooled := by
  induction cs with
  | nil => rfl
  | cons c cs ih => rw [unpooledAll, ih, List.map_cons]

theorem unpooled_allOf (cs : List Checker) : (allOf cs).unpooled = allOf (cs.map unpooled) := by
  match cs with
  | [] => rfl
  | [c] => rfl
  | c :: d :: cs =>
    rw [allOf, unpooled, unpooledAll_eq_map]
    · rfl
    · simp
    · simp

theorem unpooled_wrap (s : Site) (kind : Kind) (c : Checker) :
    (wrap s kind c).unpooled = wrap s.unpooled kind c.unpooled := by
  cases kind <;> rfl

theorem blindAll_iff {cs : List Checker} : BlindAll cs ↔ ∀ c ∈ cs, c.Blind := by
  induction cs with
  | nil => simp [BlindAll]
  | cons c cs ih => rw [BlindAll, ih, List.forall_mem_cons]

theorem blind_allOf {cs : List Checker} (h : ∀ c ∈ cs, c.Blind) : (allOf cs).Blind := by
  match cs, h with
  | [], _ => trivial
  | [c], h => exact h c (List.mem_singleton.mpr rfl)
  | c :: d :: cs, h => exact blindAll_iff.mpr h

theorem blind_wrap (s : Site) (kind : Kind) {c : Checker} (h : c.Blind) :
    (wrap s kind c).Blind := by
  cases kind <;> exact h

theorem ofBuilt_unpooled (keyword : String) (s : Site) (b : Built) :
    ofBuilt keyword s.unpooled b.unpooled = (ofBuilt keyword s b).map unpooled := by
  cases b with
  | checker c => cases c <;> rfl
  | logic l => rfl
  | plain t => rfl

theorem blind_of_ofBuilt {keyword : String} {b : Built} {c : Checker} (hb : b.Blind)
    (h : ofBuilt keyword s b = .ok c) : c.Blind := by
  cases b with
  | checker d =>
    cases d with
    | stray t => cases h
    | _ =>
      obtain rfl := Except.ok.inj h
      exact hb
  | logic l =>
    obtain rfl := Except.ok.inj h
    exact hb
  | plain t => cases h

/-- Blind entries make the same checkers without a pool, and only blind ones. -/
theorem build_unpooled {es : List Entry} (h : ∀ x ∈ es, x.builder.Blind) (s : Site) :
    (build s.unpooled es).2 = (build s es).2.map (·.map unpooled) ∧
      ∀ cs, (build s es).2 = .ok cs → ∀ c ∈ cs, c.Blind := by
  induction es with
  | nil =>
    refine ⟨rfl, ?_⟩
    intro cs hcs
    obtain rfl := Except.ok.inj hcs
    simp
  | cons x es ih =>
    obtain ⟨hx, hes⟩ := List.forall_mem_cons.mp h
    obtain ⟨ihsame, ihblind⟩ := ih hes
    have hbound : (x.builder s.unpooled).2.bind (ofBuilt x.name s.unpooled) =
        ((x.builder s).2.bind (ofBuilt x.name s)).map unpooled := by
      rw [hx.unpooled]
      cases (x.builder s).2 with
      | error f => rfl
      | ok b => exact ofBuilt_unpooled x.name s b
    cases hb : (x.builder s).2.bind (ofBuilt x.name s) with
    | error f =>
      rw [hb] at hbound
      simp only [build, hb, hbound, Except.map]
      exact ⟨trivial, by simp⟩
    | ok c =>
      rw [hb] at hbound
      obtain ⟨b, hbuilt, hc⟩ := Answer.bind_ok.mp hb
      have hblind : c.Blind := blind_of_ofBuilt (hx.built s b hbuilt) hc
      simp only [build, hb, hbound, Except.map] at ihsame ⊢
      cases hrest : (build s es).2 with
      | error f =>
        rw [hrest] at ihsame
        rw [ihsame]
        exact ⟨rfl, by simp⟩
      | ok cs =>
        rw [hrest] at ihsame
        rw [ihsame]
        refine ⟨rfl, ?_⟩
        intro cs' hcs'
        obtain rfl := Except.ok.inj hcs'
        exact List.forall_mem_cons.mpr ⟨hblind, ihblind cs hrest⟩

theorem forSite_snd (v : Vocabulary) {node : Members} {kind : Kind} (hs : s.schema = .obj node)
    (hne : node ≠ []) (hk : s.kind = .ok kind) :
    (forSite v s).2 = .ok (match (build s (v.applicable (Members.keys node) kind)).2 with
      | .ok cs => wrap s kind (allOf cs)
      | .error p => (unusable s (some p.1) p.2).1) := by
  obtain ⟨m, ms, rfl⟩ := List.exists_cons_of_ne_nil hne
  simp only [forSite, hs, hk]
  rcases build s (v.applicable (Members.keys (m :: ms)) kind) with ⟨notes, ⟨keyword, f⟩ | cs⟩ <;>
    rfl

/-- A site is dispatched to the same checker without a pool, and to a blind one. -/
theorem forSite_unpooled {v : Vocabulary} (hv : v.Blind) (s : Site) :
    (forSite v s.unpooled).2 = (forSite v s).2.map unpooled ∧
      ∀ c, (forSite v s).2 = .ok c → c.Blind := by
  have hschema : s.unpooled.schema = s.schema := rfl
  have hkind : s.unpooled.kind = s.kind := rfl
  by_cases hnode : ∃ node kind, s.schema = .obj node ∧ node ≠ [] ∧ s.kind = .ok kind
  · obtain ⟨node, kind, hs, hne, hk⟩ := hnode
    have hentries : ∀ x ∈ v.applicable (Members.keys node) kind, x.builder.Blind :=
      fun x hx => hv x (List.mem_filter.mp hx).1
    obtain ⟨hsame, hblind⟩ := build_unpooled hentries s
    rw [forSite_snd v hs hne hk, forSite_snd v (hschema.trans hs) hne (hkind.trans hk), hsame]
    cases hbuild : (build s (v.applicable (Members.keys node) kind)).2 with
    | error p =>
      refine ⟨rfl, ?_⟩
      intro c hc
      obtain rfl := Except.ok.inj hc
      trivial
    | ok cs =>
      refine ⟨?_, ?_⟩
      · simp only [Except.map, unpooled_wrap, unpooled_allOf]
      · intro c hc
        obtain rfl := Except.ok.inj hc
        exact blind_wrap s kind (blind_allOf (hblind cs hbuild))
  · -- nothing is built, and what is said of the node does not depend on the pool
    unfold forSite
    rw [hschema, hkind]
    split
    · refine ⟨rfl, ?_⟩
      intro c hc
      obtain rfl := Except.ok.inj hc
      trivial
    · rename_i node hne hs
      cases hk : s.kind with
      | error f => exact ⟨rfl, fun _ hc => nomatch hc⟩
      | ok kind => exact absurd ⟨node, kind, hs, hne, hk⟩ hnode
    · refine ⟨rfl, ?_⟩
      intro c hc
      obtain rfl := Except.ok.inj hc
      trivial

end Checker

namespace Logic

variable {e : Setting} {s t : Site}

/-- Whether a logic has further nodes judged with the pool of its site. -/
def keepsPool : Logic → Bool
  | .extending _ | .dependencies _ _ | .reference _ => true
  | _ => false

theorem pooled_of_calls {l : Logic} (ht : t ∈ l.calls e s) :
    t.pooled = (l.keepsPool && s.pooled) := by
  cases l with
  | types keyword names parts negated =>
    obtain ⟨p, _, rfl⟩ := List.mem_map.mp ht
    rfl
  | extending parts =>
    obtain ⟨p, _, rfl⟩ := List.mem_map.mp ht
    rfl
  | dependencies required schemas =>
    simp only [calls] at ht
    split at ht
    · obtain ⟨d, _, rfl⟩ := List.mem_map.mp ht
      rfl
    · simp at ht
  | reference ref =>
    simp only [calls] at ht
    split at ht
    · split at ht
      · simp at ht
      · rw [List.mem_singleton.mp ht]
        rfl
    · simp at ht
  | _ => simp [calls] at ht

end Logic

namespace Checker

variable {e : Setting} {t : Site}

theorem pooled_of_childCalls {kind : Kind} {s : Site} (ht : t ∈ childCalls kind s) :
    t.pooled = false := by
  unfold childCalls at ht
  split at ht
  · obtain ⟨job, _, rfl⟩ := List.mem_map.mp ht
    rfl
  · simp at ht

mutual

theorem pooled_of_calls : ∀ c : Checker, t ∈ c.unpooled.calls e → t.pooled = false
  | .single _ _ s, ht => (Logic.pooled_of_calls ht).trans (Bool.and_false _)
  | .all cs, ht => pooled_of_callsAll cs ht
  | .container _ c _, ht => by
    rcases List.mem_append.mp ht with ht | ht
    · exact pooled_of_calls c ht
    · exact pooled_of_childCalls ht
  | .always, ht | .never _, ht | .stray _, ht => by simp [unpooled, calls] at ht

theorem pooled_of_callsAll : ∀ cs : List Checker, t ∈ callsAll e (unpooledAll cs) →
    t.pooled = false
  | [], ht => by simp [unpooledAll, callsAll] at ht
  | c :: cs, ht => by
    rcases List.mem_append.mp ht with ht | ht
    · exact pooled_of_calls c ht
    · exact pooled_of_callsAll cs ht

end

mutual

theorem pooled_of_mem_sites : ∀ c : Checker, t ∈ c.unpooled.sites → t.pooled = false
  | .single _ _ s, ht => by
    rw [List.mem_singleton.mp ht]
    rfl
  | .all cs, ht => pooled_of_mem_sitesAll cs ht
  | .container _ c _, ht => by
    rcases List.mem_cons.mp ht with rfl | ht
    · rfl
    · exact pooled_of_mem_sites c ht
  | .always, ht | .never _, ht | .stray _, ht => by simp [unpooled, sites] at ht

theorem pooled_of_mem_sitesAll : ∀ cs : List Checker, t ∈ sitesAll (unpooledAll cs) →
    t.pooled = false
  | [], ht => by simp [unpooledAll, sitesAll] at ht
  | c :: cs, ht => by
    rcases List.mem_append.mp ht with ht | ht
    · exact pooled_of_mem_sites c ht
    · exact pooled_of_mem_sitesAll cs ht

end

/-- Without a pool, a site is dispatched to a checker without one. -/
theorem unpooled_of_forSite {v : Vocabulary} (hv : v.Blind) {s : Site} (hs : s.pooled = false)
    {c : Checker} (hc : (forSite v s).2 = .ok c) : c.unpooled = c := by
  have hsame := (forSite_unpooled hv s).1
  rw [Site.unpooled_of hs, hc] at hsame
  exact (Except.ok.inj hsame).symm

end Checker

namespace Setting

variable {e : Setting} {s t : Site}

theorem pooled_of_calls (hv : e.vocabulary.Blind) (hs : s.pooled = false) (ht : t ∈ e.calls s) :
    t.pooled = false := by
  unfold calls at ht
  split at ht
  · rename_i c hc
    rw [← Checker.unpooled_of_forSite hv hs hc] at ht
    exact c.pooled_of_calls ht
  · simp at ht

/-- Whatever comes up in judging a site without a pool has none. -/
theorem pooled_of_reaches (hv : e.vocabulary.Blind) (hs : s.pooled = false) (h : e.Reaches s t) :
    t.pooled = false := by
  induction h with
  | refl => exact hs
  | tail _ hcall ih => exact pooled_of_calls hv ih hcall

end Setting

end Conform
