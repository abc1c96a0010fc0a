import Conform.Proofs.Provenance
import Conform.Proofs.Verdict

/-!
Where messages point. Every site that comes up has its value at its path in the instance, and its
node at its location in one of the documents; what stands at a position is what the pointer to the
position resolves to. So a message about a site points at the value and the node that it is about.
-/
namespace Conform

namespace Value

/-- A position inside what stands at a position. -/
theorem mem_positions_append {v w x : Value} {ts us : List String} (h : (ts, w) ∈ v.positions)
    (hx : (us, x) ∈ w.positions) : (ts ++ us, x) ∈ v.positions := by
  induction ts generalizing v with
  | nil =>
    obtain rfl := mem_positions_nil.mp h
    exact hx
  | cons t ts ih =>
    obtain ⟨c, hc, rfl, hw⟩ := mem_positions_cons.mp h
    exact mem_positions_of_child hc (ih hw)

variable {v w : Value}

theorem mem_children_of_member {ms : Members} {name : String} (h : (name, w) ∈ ms) :
    (Token.name name, w) ∈ (obj ms).children :=
  List.mem_map.mpr ⟨(name, w), h, rfl⟩

theorem mem_children_of_element {xs : List Value} {i : Nat} (hv : v.elements? = some xs)
    (h : xs[i]? = some w) : (Token.index i, w) ∈ v.children := by
  have hchildren : v.children = xs.zipIdx.map fun x => (Token.index x.2, x.1) := by
    cases v <;> simp_all [children, elements?]
  rw [hchildren]
  exact List.mem_map.mpr ⟨(w, i), List.mem_zipIdx_iff_getElem?.mpr h, rfl⟩

/-- What a child is: a member of an object or an element of a list. -/
theorem child_cases {c : Token × Value} (hc : c ∈ v.children) :
    (∃ ms name, v = .obj ms ∧ c.1 = .name name ∧ (name, c.2) ∈ ms) ∨
      ∃ xs i, v.members? = none ∧ v.elements? = some xs ∧ c.1 = .index (Nat.cast i) ∧
        xs[i]? = some c.2 := by
  have hlisted {xs : List Value} (hm : v.members? = none) (hv : v.elements? = some xs)
      (hc : c ∈ xs.zipIdx.map fun x => (Token.index x.2, x.1)) :
      ∃ xs i, v.members? = none ∧ v.elements? = some xs ∧ c.1 = .index (Nat.cast i) ∧
        xs[i]? = some c.2 := by
    obtain ⟨⟨x, i⟩, hx, rfl⟩ := List.mem_map.mp hc
    exact ⟨xs, i, hm, hv, rfl, List.mem_zipIdx_iff_getElem?.mp hx⟩
  cases v with
  | obj ms =>
    obtain ⟨name, hname, hmem⟩ := name_of_mem_children hc
    exact .inl ⟨ms, name, rfl, hname, hmem⟩
  | arr xs => exact .inr (hlisted rfl rfl hc)
  | bytes os => exact .inr (hlisted rfl rfl hc)
  | _ => simp [children, elements?] at hc

theorem position_of_get? {ms : Members} {name : String} (h : ms.get? name = some w) :
    ([name], w) ∈ (obj ms).positions := by
  have hc : (Token.name name, w) ∈ (obj ms).children := mem_children_of_member (mem_of_get? h)
  exact mem_positions_of_child hc w.root_mem_positions

/-- A value as documents hold them: no object has a name twice, and no list is so long that the
text of a position has more digits than are read. -/
structure Addressable (v : Value) : Prop where
  names : ∀ ts ms, (ts, obj ms) ∈ v.positions → (Members.keys ms).Nodup
  digits : ∀ ts w xs, (ts, w) ∈ v.positions → w.elements? = some xs →
    ∀ i < xs.length, (toString i).length ≤ Text.maxIntegerDigits

theorem Addressable.child (h : v.Addressable) {c : Token × Value} (hc : c ∈ v.children) :
    c.2.Addressable := by
  refine ⟨?_, ?_⟩
  · intro ts ms hms
    exact h.names _ ms (mem_positions_of_child hc hms)
  · intro ts w xs hw
    exact h.digits _ w xs (mem_positions_of_child hc hw)

theorem Addressable.of_children
    (hnames : ∀ ms, v = .obj ms → (Members.keys ms).Nodup)
    (hdigits : ∀ xs, v.elements? = some xs →
      ∀ i < xs.length, (toString i).length ≤ Text.maxIntegerDigits)
    (h : ∀ c ∈ v.children, c.2.Addressable) : v.Addressable := by
  -- a position is the value itself or lies in a child
  have hcases {ts : List String} {w : Value} (hw : (ts, w) ∈ v.positions) :
      v = w ∨ ∃ c ∈ v.children, ∃ us, (us, w) ∈ c.2.positions := by
    cases ts with
    | nil => exact .inl (mem_positions_nil.mp hw).symm
    | cons t ts =>
      obtain ⟨c, hc, _, hw⟩ := mem_positions_cons.mp hw
      exact .inr ⟨c, hc, ts, hw⟩
  refine ⟨?_, ?_⟩
  · intro ts ms hms
    rcases hcases hms with hv | ⟨c, hc, us, hu⟩
    · exact hnames ms hv
    · exact (h c hc).names us ms hu
  · intro ts w xs hw
    rcases hcases hw with rfl | ⟨c, hc, us, hu⟩
    · exact hdigits xs
    · exact (h c hc).digits us w xs hu

/-- With no name twice, a member is the one that its name finds. -/
theorem get?_of_mem {ms : Members} {name : String} (hnodup : (Members.keys ms).Nodup)
    (h : (name, w) ∈ ms) : ms.get? name = some w := by
  obtain ⟨before, after, hms⟩ := List.append_of_mem h
  refine List.lookup_eq_some_iff.mpr ⟨before, after, hms, ?_⟩
  intro m hm
  -- an earlier member of the name would repeat it
  have hkeys : Members.keys ms = Members.keys before ++ name :: Members.keys after := by
    rw [hms, Members.keys, List.map_append, List.map_cons]
    rfl
  rw [hkeys] at hnodup
  have hdisjoint := (List.nodup_append.mp hnodup).2.2
  have hmem : m.1 ∈ Members.keys before := List.mem_map.mpr ⟨m, hm, rfl⟩
  have hne : m.1 ≠ name := hdisjoint m.1 hmem name List.mem_cons_self
  simpa [bne_iff_ne] using hne.symm

end Value

namespace Pointer

theorem toList_toString (n : Nat) : (toString n).toList = Nat.toDigits 10 n := by
  rw [Nat.toString_eq_ofList_toDigits, String.toList_ofList]

theorem digitsValue_toDigits (n : Nat) : Real.digitsValue (Nat.toDigits 10 n) = n :=
  Nat.ofDigitChars_toDigits (by omega) (by omega)

theorem all_isDigit_toDigits (n : Nat) : (Nat.toDigits 10 n).all Char.isDigit = true :=
  List.all_eq_true.mpr fun _ hc => Nat.isDigit_of_mem_toDigits (by omega) (by omega) hc

/-- A positive number is written without a leading zero. -/
theorem head?_toDigits {n : Nat} (hn : 0 < n) : (Nat.toDigits 10 n).head? ≠ some '0' := by
  induction n using Nat.strong_induction_on with
  | _ n ih =>
    by_cases hlt : n < 10
    · rw [Nat.toDigits_of_lt_base hlt]
      interval_cases n <;> decide
    · have hdigits : Nat.toDigits 10 n = Nat.toDigits 10 (n / 10) ++ [(n % 10).digitChar] := by
        rw [Nat.toDigits_eq_if (by omega), if_neg hlt]
      have hpos : 0 < n / 10 := by omega
      have hhead := ih (n / 10) (by omega) hpos
      rw [hdigits, List.head?_append_of_ne_nil _ Nat.toDigits_ne_nil]
      exact hhead

/-- The text of a position names the position. -/
theorem index?_toString {i : Nat} (h : (toString i).length ≤ Text.maxIntegerDigits) :
    index? (toString i) = .ok (some i) := by
  have hchars : (toString i).toList = Nat.toDigits 10 i := toList_toString i
  have hlength : (Nat.toDigits 10 i).length ≤ Text.maxIntegerDigits := by
    rw [← hchars]
    exact h
  have hshape : ((Nat.toDigits 10 i).isEmpty || !(Nat.toDigits 10 i).all Char.isDigit) = false := by
    rw [all_isDigit_toDigits, List.isEmpty_eq_false_iff.mpr Nat.toDigits_ne_nil]
    rfl
  have hzero : ¬ (1 < (Nat.toDigits 10 i).length && (Nat.toDigits 10 i).head? == some '0') := by
    rw [Bool.and_eq_true, decide_eq_true_eq, beq_iff_eq]
    intro ⟨hlong, hhead⟩
    by_cases hi : 0 < i
    · exact head?_toDigits hi hhead
    · obtain rfl : i = 0 := by omega
      rw [Nat.toDigits_zero] at hlong
      simp at hlong
  unfold index?
  simp only [hchars, hshape, digitsValue_toDigits, Bool.false_eq_true, ↓reduceIte, if_neg hzero,
    if_neg (Nat.not_lt.mpr hlength)]

theorem walk_of_mem_positions {p : Pointer} {ts : List String} {depth : Nat} {v w : Value}
    (hv : v.Addressable) (h : (ts, w) ∈ v.positions) : walk p depth ts v = .ok w := by
  -- the walk takes one token for each child on the way
  induction ts generalizing depth v with
  | nil => rw [Value.mem_positions_nil.mp h, walk]
  | cons t ts ih =>
    obtain ⟨c, hc, rfl, hw⟩ := Value.mem_positions_cons.mp h
    have hrest (depth : Nat) : walk p depth ts c.2 = .ok w := ih (hv.child hc) hw
    rcases Value.child_cases hc with ⟨ms, name, rfl, hname, hmem⟩ | ⟨xs, i, hm, hxs, hi, hx⟩
    · have hnodup := hv.names [] ms (Value.root_mem_positions _)
      have hget : Members.get? ms c.1.text = some c.2 := by
        rw [hname]
        exact Value.get?_of_mem hnodup hmem
      simp only [walk, Value.members?, hget, hrest]
    · have hlt : i < xs.length := (List.getElem?_eq_some_iff.mp hx).1
      have hshort := hv.digits [] v xs v.root_mem_positions hxs i hlt
      have hindex : index? c.1.text = .ok (some i) := by
        rw [hi]
        exact index?_toString hshort
      simp only [walk, hm, hxs, hindex, hx, hrest]

/-- A pointer to a position resolves to what stands there. -/
theorem resolve_of_mem_positions {p : Pointer} {v w : Value} (hv : v.Addressable)
    (h : (p.tokens, w) ∈ v.positions) : p.resolve v = .ok w :=
  walk_of_mem_positions hv h

end Pointer

namespace Part

/-- The tokens from a keyword's value to a part of it. -/
def steps (p : Part) : List Token := (p.position.map fun i => Token.index i).toList

theorem Of.mem_positions {p : Part} {w : Value} (h : p.Of w) :
    (p.steps.map Token.text, p.schema) ∈ w.positions := by
  rcases h with ⟨hnone, rfl⟩ | ⟨i, xs, hsome, rfl, hx⟩
  · rw [steps, hnone]
    exact p.schema.root_mem_positions
  · rw [steps, hsome]
    have hc : (Token.index i, p.schema) ∈ (Value.arr xs).children :=
      Value.mem_children_of_element rfl hx
    exact Value.mem_positions_of_child hc p.schema.root_mem_positions

end Part

namespace ChildSchema

variable {node : Members} {c : ChildSchema} {l : List ChildSchema}

/-- The steps of a child schema lead to it from the node that holds it. -/
def Leads (node : Members) (c : ChildSchema) : Prop :=
  (c.steps.map Token.text, c.schema) ∈ (Value.obj node).positions

theorem leads_ofMember {name : String} (hc : c ∈ ofMember node name) : c.Leads node := by
  unfold ofMember at hc
  split at hc
  · rename_i ms h
    rw [List.mem_singleton.mp hc]
    exact Value.position_of_get? h
  · simp at hc

theorem leads_forElement {i : Nat} (h : forElement node (.index i) = .ok l) (hc : c ∈ l) :
    c.Leads node := by
  unfold forElement at h
  split at h
  · rename_i ms hitems
    obtain rfl := Except.ok.inj h
    rw [List.mem_singleton.mp hc]
    exact Value.position_of_get? hitems
  · rename_i items _ hitems
    split at h
    · obtain rfl := Except.ok.inj h
      simp at hc
    · rename_i xs hxs
      simp only [position, Answer.do_ok, Except.ok.injEq, exists_eq_left', elementAt?_nat,
        Nat.cast_lt] at h
      split at h
      · rename_i hlt
        rw [List.getElem?_eq_getElem hlt] at h
        obtain rfl := Except.ok.inj h
        rw [List.mem_singleton.mp hc]
        -- one step to the list, one into it
        have hlist := Value.position_of_get? hitems
        have helement : ([(Token.index i).text], xs[i]) ∈ items.positions :=
          Value.mem_positions_of_child
            (Value.mem_children_of_element hxs (List.getElem?_eq_getElem hlt))
            xs[i].root_mem_positions
        exact Value.mem_positions_append hlist helement
      · obtain rfl := Except.ok.inj h
        exact leads_ofMember hc
  · obtain rfl := Except.ok.inj h
    simp at hc

theorem leads_declared {name : String} (hc : c ∈ declared node name) : c.Leads node := by
  unfold declared at hc
  split at hc
  · rename_i ps hps
    split at hc
    · rename_i t ht
      rw [List.mem_singleton.mp hc]
      exact Value.mem_positions_append (Value.position_of_get? hps) (Value.position_of_get? ht)
    · simp at hc
  · simp at hc

/-- Each match comes with the member that it was found at. -/
theorem mem_of_matching {name : String} {ps : Members} (h : matching name ps = .ok l)
    (hc : c ∈ l) : ∃ source, c.steps = [.name "patternProperties", .name source] ∧
      (source, c.schema) ∈ ps := by
  induction ps generalizing l with
  | nil =>
    obtain rfl : [] = l := Except.ok.inj h
    simp at hc
  | cons m ps ih =>
    obtain ⟨source, schema⟩ := m
    simp only [matching, Answer.do_ok] at h
    obtain ⟨_, _, matched, _, found, hfound, h⟩ := h
    have hlater (hc : c ∈ found) : ∃ source', c.steps = [.name "patternProperties", .name source'] ∧
        (source', c.schema) ∈ (source, schema) :: ps := by
      obtain ⟨source', hsteps, hmem⟩ := ih hfound hc
      exact ⟨source', hsteps, List.mem_cons_of_mem _ hmem⟩
    cases matched with
    | true =>
      obtain rfl : _ :: found = l := Except.ok.inj h
      rcases List.mem_cons.mp hc with rfl | hc
      · exact ⟨source, rfl, List.mem_cons_self⟩
      · exact hlater hc
    | false =>
      obtain rfl : found = l := Except.ok.inj h
      exact hlater hc

theorem leads_patterned {name : String} (h : patterned node name = .ok l) (hc : c ∈ l) :
    c.Leads node := by
  unfold patterned at h
  split at h
  · rename_i ps hps
    obtain ⟨source, hsteps, hmem⟩ := mem_of_matching h hc
    have hmember : ([source], c.schema) ∈ (Value.obj ps).positions :=
      Value.mem_positions_of_child (Value.mem_children_of_member hmem) c.schema.root_mem_positions
    rw [Leads, hsteps]
    exact Value.mem_positions_append (Value.position_of_get? hps) hmember
  · obtain rfl : [] = l := Except.ok.inj h
    simp at hc

theorem leads_forMember {token : Token} (h : forMember node token = .ok l) (hc : c ∈ l) :
    c.Leads node := by
  simp only [forMember, Answer.do_ok, Answer.map_ok] at h
  obtain ⟨found, ⟨ps, hps, rfl⟩, h⟩ := h
  cases hempty : (declared node token.text ++ ps).isEmpty with
  | true =>
    rw [hempty] at h
    obtain rfl : ofMember node "additionalProperties" = l := Except.ok.inj h
    exact leads_ofMember hc
  | false =>
    rw [hempty] at h
    obtain rfl : declared node token.text ++ ps = l := Except.ok.inj h
    rcases List.mem_append.mp hc with hc | hc
    · exact leads_declared hc
    · exact leads_patterned hps hc

end ChildSchema

namespace Site

/-- The ways from a site to those that come up in judging it, with the places that they go to: to a
part of the node, to the target of a reference, or to a child of the value. -/
inductive Moves (d : Documents) (s : Site) : Site → Prop
  | part {steps : List Token} {schema : Value}
      (h : (steps.map Token.text, schema) ∈ s.schema.positions) (pooled : Bool) :
      Moves d s { s with schema, location := s.location.append steps, pooled }
  | target {ref : String} {location : Location} {schema : Value}
      (h : d.resolve (.str ref) s.location = .ok (location, schema)) :
      Moves d s (s.follow schema location)
  | child {c : Token × Value} {steps : List Token} {schema : Value} (hc : c ∈ s.value.children)
      (h : (steps.map Token.text, schema) ∈ s.schema.positions) :
      Moves d s (s.child schema c.2 c.1 steps)

/-- The value stands at the path in the instance, the node at the location in a document. -/
structure Located (d : Documents) (x : Value) (s : Site) : Prop where
  value : (s.path.tokens, s.value) ∈ x.positions
  schema : ∃ document, d.entries.get? s.location.uri = some document ∧
    (s.location.pointer.tokens, s.schema) ∈ document.positions

variable {d : Documents} {x : Value} {s t : Site}

/-- Every way keeps path and value, and location and node, together. -/
theorem Moves.located (hst : s.Moves d t) (h : s.Located d x) : t.Located d x := by
  obtain ⟨document, hdocument, hnode⟩ := h.schema
  cases hst with
  | part hsteps pooled =>
    exact ⟨h.value, document, hdocument, Value.mem_positions_append hnode hsteps⟩
  | target hr => exact ⟨h.value, Documents.mem_of_resolve hr⟩
  | @child c steps schema hc hsteps =>
    have hchild : ([c.1.text], c.2) ∈ s.value.positions :=
      Value.mem_positions_of_child hc c.2.root_mem_positions
    exact ⟨Value.mem_positions_append h.value hchild, document, hdocument,
      Value.mem_positions_append hnode hsteps⟩

end Site

namespace Keyword

/-- A part of a keyword's value is reached by way of the keyword. -/
theorem moves_part {d : Documents} {s : Site} {node : Members} {keyword : String} {w : Value}
    {p : Part} (hs : s.schema = .obj node) (hw : node.get? keyword = some w) (hp : p.Of w)
    (pooled : Bool) :
    s.Moves d { s with schema := p.schema, location := Logic.partLocation s keyword p, pooled } := by
  have hpart : ((Token.name keyword :: p.steps).map Token.text, p.schema) ∈ s.schema.positions := by
    rw [hs]
    exact Value.mem_positions_append (Value.position_of_get? hw) hp.mem_positions
  exact .part hpart pooled

theorem moves_of_calls {e : Setting} {s t : Site} {node : Members} {l : Logic}
    (hs : s.schema = .obj node) (hl : Makes node (.logic l)) (ht : t ∈ l.calls e s) :
    s.Moves e.documents t := by
  cases hl with
  | test => simp [Logic.calls] at ht
  | unknownFormat => simp [Logic.calls] at ht
  | types negated hw _ hof =>
    obtain ⟨p, hp, rfl⟩ := List.mem_map.mp ht
    exact moves_part hs hw (hof p hp) false
  | extending hw hparts =>
    obtain ⟨p, hp, rfl⟩ := List.mem_map.mp ht
    exact moves_part hs hw (Expect.of_schemas hparts hp) s.pooled
  | dependencies hw hd =>
    simp only [Logic.calls] at ht
    split at ht
    · obtain ⟨m, hm, rfl⟩ := List.mem_map.mp ht
      have hmem := (((dependencyList_ok hd).schemas m).mp (List.mem_filter.mp hm).1).1
      have hmember : ([m.1], m.2) ∈ (Value.obj _).positions :=
        Value.mem_positions_of_child (Value.mem_children_of_member hmem) m.2.root_mem_positions
      have hpart : ([Token.name "dependencies", .name m.1].map Token.text, m.2) ∈
          s.schema.positions := by
        rw [hs]
        exact Value.mem_positions_append (Value.position_of_get? hw) hmember
      exact .part hpart s.pooled
    · simp at ht
  | reference hw =>
    simp only [Logic.calls] at ht
    split at ht
    · rename_i location target hr
      split at ht
      · simp at ht
      · rw [List.mem_singleton.mp ht]
        exact .target hr
    · simp at ht

end Keyword

namespace Setting

variable {e : Setting} {s t : Site} {x : Value}

/-- The schema of a child leads to it from the node of the site, whatever else the node says. -/
theorem leads_of_mem_ofSite {node : Members} {kind : Kind} {jobs : List Job} {j : Job}
    (hs : s.schema = .obj node) (hk : s.kind = .ok kind) (hkind : kind = .array ∨ kind = .object)
    (hjobs : Job.ofSite kind s = .ok jobs) (hj : j ∈ jobs) :
    (j.token, j.value) ∈ s.value.children ∧ j.schema.Leads node := by
  have hall : Job.forChildren kind node s.value.children = .ok jobs := by
    simpa [Job.ofSite, Site.node, hs] using hjobs
  obtain ⟨hc, l, hl, hschema⟩ := (Job.mem_forChildren hall j).mp hj
  refine ⟨hc, ?_⟩
  rcases hkind with rfl | rfl
  · obtain ⟨xs, hv⟩ := Value.eq_arr_of_kind (Kind.classify_ok.mp hk)
    rw [hv] at hc
    obtain ⟨i, hi, _⟩ := Value.index_of_mem_children hc
    rw [show j.token = .index i from hi] at hl
    exact ChildSchema.leads_forElement hl hschema
  · exact ChildSchema.leads_forMember hl hschema

theorem moves_of_childCalls {d : Documents} {node : Members} {kind : Kind}
    (hs : s.schema = .obj node) (hk : s.kind = .ok kind) (hkind : kind = .array ∨ kind = .object)
    (ht : t ∈ Checker.childCalls kind s) : s.Moves d t := by
  unfold Checker.childCalls at ht
  split at ht
  · rename_i jobs hjobs
    obtain ⟨j, hj, rfl⟩ := List.mem_map.mp ht
    obtain ⟨hc, hleads⟩ := leads_of_mem_ofSite hs hk hkind hjobs hj
    rw [ChildSchema.Leads, ← hs] at hleads
    exact .child hc hleads
  · simp at ht

/-- With the known keywords, whatever comes up in judging a site is at a place led to from it. -/
theorem moves_of_calls (hv : e.vocabulary = .known) (ht : t ∈ e.calls s) :
    s.Moves e.documents t := by
  obtain ⟨node, hs, ⟨k, l, hl, ht⟩ | ⟨kind, hk, hkind, _, ht⟩⟩ := calls_cases hv ht
  · exact Keyword.moves_of_calls hs (Keyword.makes_of_build hl) ht
  · exact moves_of_childCalls hs hk hkind ht

theorem located_of_reaches (hv : e.vocabulary = .known) (h : e.Reaches s t)
    (hs : s.Located e.documents x) : t.Located e.documents x := by
  induction h with
  | refl => exact hs
  | tail _ hcall ih => exact (moves_of_calls hv hcall).located ih

end Setting

namespace Members

theorem get?_put (ms : Members) (k : String) (v : Value) : (put ms k v).get? k = some v := by
  induction ms with
  | nil => exact List.lookup_cons_self
  | cons m ms ih =>
    by_cases hk : m.1 = k
    · rw [put, if_pos hk]
      exact List.lookup_cons_self
    · rw [put, if_neg hk]
      have hne : (k == m.1) = false := beq_eq_false_iff_ne.mpr (Ne.symm hk)
      rw [get?, List.lookup_cons, hne]
      exact ih

theorem mem_put {ms : Members} {k : String} {v : Value} {m : String × Value}
    (h : m ∈ put ms k v) : m = (k, v) ∨ m ∈ ms := by
  induction ms with
  | nil => exact .inl (List.mem_singleton.mp h)
  | cons n ms ih =>
    by_cases hk : n.1 = k
    · rw [put, if_pos hk] at h
      exact (List.mem_cons.mp h).imp id (List.mem_cons_of_mem _)
    · rw [put, if_neg hk] at h
      rcases List.mem_cons.mp h with rfl | h
      · exact .inr List.mem_cons_self
      · exact (ih h).imp id (List.mem_cons_of_mem _)

end Members

namespace Documents

theorem mem_storeAll {store entries entries' : Members} (h : storeAll store entries = .ok entries')
    {m : String × Value} (hm : m ∈ entries') :
    m ∈ entries ∨ ∃ n ∈ store, n.2 = m.2 := by
  induction store generalizing entries with
  | nil =>
    obtain rfl := Except.ok.inj h
    exact .inl hm
  | cons n store ih =>
    obtain ⟨key, _, h⟩ := Answer.do_ok.mp h
    rcases ih h with hm | ⟨n', hn', hm⟩
    · rcases Members.mem_put hm with rfl | hm
      · exact .inr ⟨n, List.mem_cons_self, rfl⟩
      · exact .inl hm
    · exact .inr ⟨n', List.mem_cons_of_mem _ hn', hm⟩

/-- The documents made of a root and a store are these, and the root is at its address. -/
theorem of_make {root : Value} {baseUri : String} {store : Members} {d : Documents}
    (h : make root baseUri store = .ok d) : d.entries.get? d.baseUri = some root ∧
      ∀ m ∈ d.entries, m.2 = root ∨ ∃ n ∈ store, n.2 = m.2 := by
  obtain ⟨entries, hentries, h⟩ := Answer.do_ok.mp h
  obtain ⟨base, _, h⟩ := Answer.do_ok.mp h
  obtain rfl := Except.ok.inj h
  refine ⟨Members.get?_put _ _ _, ?_⟩
  intro m hm
  rcases Members.mem_put hm with rfl | hm
  · exact .inl rfl
  · rcases mem_storeAll hentries hm with hm | hm
    · simp at hm
    · exact .inr hm

end Documents

/-- A message points at a value of the instance and at a node of one of the documents. If it names
a keyword, the node has it and it applies to the value; else the node is none. -/
def Diagnostic.Points (d : Documents) (x : Value) (m : Diagnostic) : Prop :=
  ∃ v l document n, m.path.resolve x = .ok v ∧ m.schema = some l ∧
    d.entries.get? l.uri = some document ∧ l.pointer.resolve document = .ok n ∧
    match m.keyword with
    | some name => ∃ (node : Members) (w : Value) (entry : Entry) (kind : Kind), n = .obj node ∧
        node.get? name = some w ∧ Vocabulary.known.lookup name = some entry ∧
        Kind.of? v = some kind ∧ kind ∈ entry.kinds
    | none => ¬ n.IsSchema ∧ m.domain = .construction

theorem Keyword.lookup_name (k : Keyword) :
    ∃ entry, Vocabulary.known.lookup k.name = some entry ∧ entry.kinds = k.kinds := by
  cases k <;> exact ⟨_, rfl, rfl⟩

theorem Diagnostic.About.points {d : Documents} {x : Value} {s : Site} {m : Diagnostic}
    (h : m.About s) (hs : s.Located d x) (hx : x.Addressable)
    (hd : ∀ entry ∈ d.entries, entry.2.Addressable) : m.Points d x := by
  obtain ⟨document, hdocument, hnode⟩ := hs.schema
  have haddressable : document.Addressable := hd _ (Value.mem_of_get? hdocument)
  have hvalue : s.path.resolve x = .ok s.value := Pointer.resolve_of_mem_positions hx hs.value
  have hschema : s.location.pointer.resolve document = .ok s.schema :=
    Pointer.resolve_of_mem_positions haddressable hnode
  cases h with
  | @keyword node kind k hn hk hsel hm =>
    obtain ⟨⟨w, hw⟩, hkind⟩ := Keyword.mem_selected.mp hsel
    obtain ⟨entry, hlookup, hkinds⟩ := k.lookup_name
    refine ⟨s.value, s.location, document, s.schema, ?_, hm.schema, hdocument, hschema, ?_⟩
    · rw [hm.path]
      exact hvalue
    · rw [hm.keyword]
      refine ⟨node, w, entry, kind, hn, hw, hlookup, Kind.classify_ok.mp hk, ?_⟩
      rw [hkinds]
      exact hkind
  | shape hshape hcomplains hm =>
    refine ⟨s.value, s.location, document, s.schema, ?_, hm.schema, hdocument, hschema, ?_⟩
    · rw [hm.path]
      exact hvalue
    · rw [hm.keyword]
      exact ⟨hshape, hcomplains.domain⟩

namespace Validator

/-- Whatever validation finds points at what it talks about: its path resolves in the instance, its
schema location in the documents, and its keyword is one of the node there and applies to the value
there. Only a node that is no object is complained about without a keyword. -/
theorem findings_point {schema : Value} {o : Options} {baseUri : String} {store : Members}
    {v : Validator} {x : Value} (hmake : make schema .known o none baseUri store = .ok v)
    (hschema : schema.Addressable) (hstore : ∀ m ∈ store, m.2.Addressable)
    (hx : x.Addressable) :
    ∀ m ∈ (v.findings x).1.report.messages, m.Points v.setting.documents x := by
  intro m hm
  obtain ⟨d, hd, hv⟩ := Answer.do_ok.mp hmake
  obtain rfl := Except.ok.inj hv
  obtain ⟨hroot, hentries⟩ := Documents.of_make hd
  rw [findings_eq, Outcome.onto, Report.logAll_debug, List.nil_append] at hm
  obtain ⟨t, ht, habout⟩ := Setting.exists_about_of_mem_messages rfl hm
  -- validation begins at the root of the instance and of the schema
  have hstart : (site ⟨schema, ⟨.known, d, o, .report⟩, ⟨d.baseUri, .root⟩⟩ x).Located d x :=
    ⟨x.root_mem_positions, schema, hroot, schema.root_mem_positions⟩
  have hlocated : t.Located d x := Setting.located_of_reaches rfl ht hstart
  refine habout.points hlocated hx ?_
  intro entry hentry
  rcases hentries entry hentry with h | ⟨n, hn, h⟩
  · rw [h]
    exact hschema
  · rw [← h]
    exact hstore n hn

/-- An element that fails a node of another document, which the schema of the items refers to. -/
theorem findings_point_reference :
    let schema : Value := .obj [("items", .obj [("$ref", .str "more#/text")])]
    let more : Value := .obj [("text", .obj [("type", .str "string")])]
    let x : Value := .arr [.str "a", .int 1]
    ∃ v ms, make schema .known {} none "" [("more", more)] = .ok v ∧
      (v.findings x).1.report.messages = ms ∧
      ms.map (fun m => (m.path.tokens, m.schema, m.keyword)) =
        [(["1"], some ⟨"more", ⟨["text"]⟩⟩, some "type")] ∧
      ∀ m ∈ ms, m.Points v.setting.documents x := by
  intro schema more x
  have hstr (t : String) : (Value.str t).Addressable :=
    .of_children (by simp) (by simp [Value.elements?]) (by simp [Value.children, Value.elements?])
  have hint (n : Int) : (Value.int n).Addressable :=
    .of_children (by simp) (by simp [Value.elements?]) (by simp [Value.children, Value.elements?])
  have hsingle {name : String} {v : Value} (hv : v.Addressable) :
      (Value.obj [(name, v)]).Addressable :=
    .of_children (by simp [Members.keys]) (by simp [Value.elements?])
      (by simpa [Value.children] using hv)
  have hx : x.Addressable := by
    refine .of_children (by simp [x]) ?_ (by simp [x, Value.children, Value.elements?, hstr, hint])
    intro xs hxs i hi
    obtain rfl : [Value.str "a", .int 1] = xs := Option.some.inj hxs
    have htwo : i = 0 ∨ i = 1 := by
      simp at hi
      omega
    rcases htwo with rfl | rfl <;> decide
  have hmake : make schema .known {} none "" [("more", more)] =
      .ok ⟨schema, ⟨.known, ⟨"", [("more", more), ("", schema)]⟩, {}, .report⟩, ⟨"", .root⟩⟩ := rfl
  refine ⟨_, _, hmake, rfl, by decide +kernel, ?_⟩
  refine findings_point hmake (hsingle (hsingle (hstr _))) ?_ hx
  intro m hm
  rw [List.mem_singleton.mp hm]
  exact hsingle (hsingle (hstr _))

end Validator

end Conform
