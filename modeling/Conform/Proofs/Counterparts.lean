import Conform.Proofs.Paired
import Conform.Proofs.References
import Conform.Proofs.Unordered

/-!
What is found in rearrangements of a node, a value or a document. The parts that a keyword lists
keep their places; dependencies and children, which stand in the order of members, can be paired;
and a pointer leads to rearrangements of the same node, or nowhere for the same reason.
-/
namespace Conform

open Value Value.Rearranged

theorem rel_getElem? {α β : Type} {R : α → β → Prop} {xs : List α} {ys : List β}
    (h : List.Forall₂ R xs ys) (i : Nat) : Option.Rel R xs[i]? ys[i]? := by
  induction h generalizing i with
  | nil => exact .none
  | cons hxy _ ih =>
    cases i with
    | zero => exact .some hxy
    | succ i => exact ih i

namespace Value.Rearranged

variable {v w : Value}

theorem members? (h : v.Rearranged w) : Option.Rel Matched v.members? w.members? := by
  cases v with
  | obj ms =>
    obtain ⟨ns, rfl, hns⟩ := h.of_obj
    exact .some hns
  | arr xs =>
    obtain ⟨ys, rfl, _⟩ := h.of_arr
    exact .none
  | _ =>
    obtain rfl := h.of_leaf rfl
    exact .none

theorem elements? (h : v.Rearranged w) :
    Option.Rel (List.Forall₂ Rearranged) v.elements? w.elements? := by
  cases v with
  | arr xs =>
    obtain ⟨ys, rfl, hys⟩ := h.of_arr
    exact .some hys
  | obj ms =>
    obtain ⟨ns, rfl, _⟩ := h.of_obj
    exact .none
  | bytes os =>
    obtain rfl := h.of_leaf rfl
    exact .some (forall₂_map fun o _ => .leaf rfl)
  | _ =>
    obtain rfl := h.of_leaf rfl
    exact .none

end Value.Rearranged

/-- A pointer leads to rearrangements in rearrangements, or fails in the same way. -/
theorem Pointer.walk_rel (p : Pointer) (ts : List String) (depth : Nat) {v w : Value}
    (h : v.Rearranged w) :
    Answer.Rel Value.Rearranged (walk p depth ts v) (walk p depth ts w) := by
  induction ts generalizing depth v w with
  | nil => exact .ok h
  | cons t ts ih =>
    have hmembers := h.members?
    have helements := h.elements?
    simp only [walk]
    generalize v.members? = a, w.members? = b at hmembers ⊢
    generalize v.elements? = c, w.elements? = d at helements ⊢
    cases hmembers with
    | @some ms ns hms =>
      have hget := hms.get? t
      dsimp only
      generalize Members.get? ms t = x, Members.get? ns t = y at hget ⊢
      cases hget with
      | none => exact .error _
      | some hxy => exact ih _ hxy
    | none =>
      cases helements with
      | none => exact .error _
      | @some xs ys hxs =>
        dsimp only
        cases index? t with
        | error f => exact .error f
        | ok o =>
          cases o with
          | none => exact .error _
          | some i =>
            have hget := rel_getElem? hxs i
            dsimp only
            generalize xs[i]? = x, ys[i]? = y at hget ⊢
            cases hget with
            | none => exact .error _
            | some hxy => exact ih _ hxy

namespace Documents

/-- The same addresses hold rearrangements of the same documents. -/
def Rearranged (d d' : Documents) : Prop :=
  ∀ uri, Option.Rel Value.Rearranged (d.entries.get? uri) (d'.entries.get? uri)

/-- A reference leads to rearrangements at one place, or fails in the same way. -/
theorem resolve_rel {d d' : Documents} (h : d.Rearranged d') (ref : String) (base : Location) :
    Answer.Rel (fun r r' => r.1 = r'.1 ∧ r.2.Rearranged r'.2) (d.resolve (.str ref) base)
      (d'.resolve (.str ref) base) := by
  rw [resolve_eq, resolve_eq]
  cases destination base.uri ref with
  | error f => exact .error f
  | ok parts =>
    have hget := h parts.1
    simp only [Except.bind]
    generalize d.entries.get? parts.1 = x, d'.entries.get? parts.1 = y at hget ⊢
    cases hget with
    | none => exact .error _
    | some hxy =>
      dsimp only
      cases fragmentPointer parts.2 with
      | error f => exact .error f
      | ok p => exact (p.walk_rel p.tokens 0 hxy).bind fun a b hab => .ok ⟨rfl, hab⟩

end Documents

/-- Parts at one position that are rearrangements of each other. -/
structure Part.Rearranged (p q : Part) : Prop where
  position : p.position = q.position
  schema : p.schema.Rearranged q.schema

namespace Expect

theorem elementSchemas_rel (keyword : String) (i : Nat) {xs ys : List Value}
    (h : List.Forall₂ Value.Rearranged xs ys) :
    Answer.Rel (List.Forall₂ Part.Rearranged) (elementSchemas keyword i xs)
      (elementSchemas keyword i ys) := by
  induction h generalizing i with
  | nil => exact .ok .nil
  | @cons x y xs ys hxy _ ih =>
    cases x with
    | obj ms =>
      obtain ⟨ns, rfl, _⟩ := hxy.of_obj
      exact (ih (i + 1)).map fun _ _ hps => .cons ⟨rfl, hxy⟩ hps
    | arr us =>
      obtain ⟨zs, rfl, _⟩ := hxy.of_arr
      exact .error _
    | _ =>
      obtain rfl := hxy.of_leaf rfl
      exact .error _

theorem schemas_rel (keyword : String) {v w : Value} (h : v.Rearranged w) :
    Answer.Rel (List.Forall₂ Part.Rearranged) (schemas keyword v) (schemas keyword w) := by
  cases v with
  | obj ms =>
    obtain ⟨ns, rfl, _⟩ := h.of_obj
    exact .ok (.cons ⟨rfl, h⟩ .nil)
  | arr xs =>
    obtain ⟨ys, rfl, hys⟩ := h.of_arr
    exact elementSchemas_rel keyword 0 hys
  | _ =>
    obtain rfl := h.of_leaf rfl
    exact .error _

end Expect

namespace Keyword

theorem alternatives_rel (keyword : String) (i : Nat) {xs ys : List Value}
    (h : List.Forall₂ Value.Rearranged xs ys) :
    Answer.Rel (fun r r' => r.1 = r'.1 ∧ List.Forall₂ Part.Rearranged r.2 r'.2)
      (alternatives keyword i xs) (alternatives keyword i ys) := by
  induction h generalizing i with
  | nil => exact .ok ⟨rfl, .nil⟩
  | @cons x y xs ys hxy _ ih =>
    cases x with
    | str s =>
      obtain rfl := hxy.of_leaf rfl
      simp only [alternatives]
      split
      · exact (ih (i + 1)).map fun _ _ hr => ⟨congrArg (s :: ·) hr.1, hr.2⟩
      · exact .error _
    | obj ms =>
      obtain ⟨ns, rfl, _⟩ := hxy.of_obj
      exact (ih (i + 1)).map fun _ _ hr => ⟨hr.1, .cons ⟨rfl, hxy⟩ hr.2⟩
    | arr us =>
      obtain ⟨zs, rfl, _⟩ := hxy.of_arr
      exact .error _
    | _ =>
      obtain rfl := hxy.of_leaf rfl
      exact .error _

variable {node node' : Members} {b b' : Built}

/-- The types of a keyword are the same, but for rearrangements of the schemas among them. -/
theorem types_of_matched (hn : Matched node node') {keyword : String} {negated : Bool}
    (hb : typesBuilder keyword negated node = .ok b)
    (hb' : typesBuilder keyword negated node' = .ok b') : ∃ names parts parts',
      List.Forall₂ Part.Rearranged parts parts' ∧
        b = .logic (.types keyword names parts negated) ∧
        b' = .logic (.types keyword names parts' negated) := by
  have hlist {xs ys : List Value} (hxs : List.Forall₂ Value.Rearranged xs ys)
      (hb : (alternatives keyword 0 xs >>= fun r =>
        pure (.logic (.types keyword r.1 r.2 negated))) = .ok b)
      (hb' : (alternatives keyword 0 ys >>= fun r =>
        pure (.logic (.types keyword r.1 r.2 negated))) = .ok b') :
      ∃ names parts parts', List.Forall₂ Part.Rearranged parts parts' ∧
        b = .logic (.types keyword names parts negated) ∧
        b' = .logic (.types keyword names parts' negated) := by
    obtain ⟨r, hr, hb⟩ := Answer.do_ok.mp hb
    obtain ⟨r', hr', hb'⟩ := Answer.do_ok.mp hb'
    have hrel := alternatives_rel keyword 0 hxs
    rw [hr, hr'] at hrel
    obtain ⟨hnames, hparts⟩ := hrel.of_ok
    refine ⟨r.1, r.2, r'.2, hparts, (Except.ok.inj hb).symm, ?_⟩
    rw [hnames]
    exact (Except.ok.inj hb').symm
  simp only [typesBuilder, Answer.do_ok, own_ok] at hb hb'
  obtain ⟨w, hw, hb⟩ := hb
  obtain ⟨w', hw', hb'⟩ := hb'
  obtain ⟨y, hy, hwy⟩ := some_of_rel (hn.get? keyword) hw
  obtain rfl := Option.some.inj (hw'.symm.trans hy)
  cases w with
  | str s =>
    obtain rfl := hwy.of_leaf rfl
    exact hlist (.cons hwy .nil) hb hb'
  | arr xs =>
    obtain ⟨ys, rfl, hys⟩ := hwy.of_arr
    cases hys with
    | nil => cases hb
    | cons hxy hrest => exact hlist (.cons hxy hrest) hb hb'
  | _ => cases hb

/-- What a dependency asks for by name, and what by a schema. -/
def named (m : String × Value) : List (String × List String) :=
  match m.2 with
  | .obj _ => []
  | v => [(m.1, v.names)]

def dependent (m : String × Value) : Members :=
  match m.2 with
  | .obj _ => [m]
  | _ => []

theorem dependencyList_eq {ms : Members} {required : List (String × List String)}
    {schemas : Members} (h : dependencyList ms = .ok (required, schemas)) :
    required = ms.flatMap named ∧ schemas = ms.flatMap dependent := by
  induction ms generalizing required schemas with
  | nil =>
    obtain ⟨rfl, rfl⟩ := Prod.mk.inj (Except.ok.inj h)
    exact ⟨rfl, rfl⟩
  | cons m ms ih =>
    obtain ⟨name, w⟩ := m
    cases w with
    | str s =>
      obtain ⟨⟨required, schemas⟩, hrest, hp⟩ := Answer.map_ok.mp h
      obtain ⟨rfl, rfl⟩ := Prod.mk.inj hp
      obtain ⟨rfl, rfl⟩ := ih hrest
      exact ⟨rfl, rfl⟩
    | arr xs =>
      simp only [dependencyList, Answer.do_ok, Expect.strings_ok] at h
      obtain ⟨siblings, rfl, ⟨required, schemas⟩, hrest, h⟩ := h
      obtain ⟨rfl, rfl⟩ := Prod.mk.inj (Except.ok.inj h)
      obtain ⟨rfl, rfl⟩ := ih hrest
      have hnames : (Value.arr (siblings.map .str)).names = siblings := by
        simp [Value.names, Value.listed, List.filterMap_map]
      simp only [List.flatMap_cons, named, dependent, hnames]
      exact ⟨rfl, rfl⟩
    | obj ps =>
      obtain ⟨⟨required, schemas⟩, hrest, hp⟩ := Answer.map_ok.mp h
      obtain ⟨rfl, rfl⟩ := Prod.mk.inj hp
      obtain ⟨rfl, rfl⟩ := ih hrest
      exact ⟨rfl, rfl⟩
    | _ => simp [dependencyList] at h

/-- The same names are asked for, and by rearranged schemas, in whatever order. -/
theorem dependencies_of_matched {ms ns : Members} (hms : Matched ms ns)
    {required required' : List (String × List String)} {schemas schemas' : Members}
    (h : dependencyList ms = .ok (required, schemas))
    (h' : dependencyList ns = .ok (required', schemas')) :
    Paired (· = ·) required required' ∧
      Paired (fun d d' => d.1 = d'.1 ∧ d.2.Rearranged d'.2) schemas schemas' := by
  obtain ⟨rfl, rfl⟩ := dependencyList_eq h
  obtain ⟨rfl, rfl⟩ := dependencyList_eq h'
  refine ⟨hms.paired.flatMap ?_, hms.paired.flatMap ?_⟩
  · rintro ⟨k, x⟩ ⟨_, y⟩ ⟨rfl, hxy⟩
    have hnames := hxy.names_eq
    cases hxy with
    | leaf => exact .of_perm (.refl _)
    | list => exact .of_perm (.of_eq (by simp only [named, hnames]))
    | object => exact .of_perm (.refl _)
  · rintro ⟨k, x⟩ ⟨_, y⟩ ⟨rfl, hxy⟩
    cases hxy with
    | leaf h =>
      cases x with
      | obj => cases h
      | _ => exact .of_forall₂ .nil
    | list => exact .of_forall₂ .nil
    | object hn hkeys h => exact .of_forall₂ (.cons ⟨rfl, .object hn hkeys h⟩ .nil)

end Keyword

/-- Schemas for a child with one way to them that are rearrangements of each other. -/
structure ChildSchema.Rearranged (c c' : ChildSchema) : Prop where
  steps : c.steps = c'.steps
  schema : c.schema.Rearranged c'.schema

namespace ChildSchema

/-- Lists in step have related elements under one index, be it counted from the end. -/
theorem elementAt?_rel {xs ys : List Value} (h : List.Forall₂ Value.Rearranged xs ys) (i : Int) :
    Option.Rel Value.Rearranged (elementAt? xs i) (elementAt? ys i) := by
  simp only [elementAt?, ← h.length_eq]
  generalize (if i < 0 then (xs.length : Int) + i else i) = j
  split
  · exact .none
  · exact rel_getElem? h j.toNat

/-- The schema that stands for an element in a list of items, or those for further elements. -/
def amongItems (items : List Value) (further : List ChildSchema) (missing : Fault)
    (token : Token) : Except Fault (List ChildSchema) := do
  let i ← position token
  if i < items.length then
    match elementAt? items i with
    | some schema => return [⟨[.name "items", .index i], schema⟩]
    | none => throw missing
  else return further

theorem amongItems_rel {xs ys : List Value} {further further' : List ChildSchema}
    (h : List.Forall₂ Value.Rearranged xs ys)
    (hfurther : List.Forall₂ ChildSchema.Rearranged further further') (missing : Fault)
    (token : Token) : Answer.Rel (List.Forall₂ ChildSchema.Rearranged)
      (amongItems xs further missing token) (amongItems ys further' missing token) := by
  unfold amongItems
  cases position token with
  | error f => exact .error f
  | ok i =>
    simp only [bind, Except.bind, ← h.length_eq]
    split
    · have hat := elementAt?_rel h i
      generalize elementAt? xs i = a, elementAt? ys i = b at hat ⊢
      cases hat with
      | none => exact .error _
      | some hab => exact .ok (.cons ⟨rfl, hab⟩ .nil)
    · exact .ok hfurther

variable {node node' : Members} (hn : Matched node node')

include hn

theorem ofMember_rel (name : String) :
    List.Forall₂ ChildSchema.Rearranged (ofMember node name) (ofMember node' name) := by
  have hget := hn.get? name
  unfold ofMember
  generalize node.get? name = x, node'.get? name = y at hget ⊢
  cases hget with
  | none => exact .nil
  | @some x y hxy =>
    cases x with
    | obj ms =>
      obtain ⟨ns, rfl, _⟩ := hxy.of_obj
      exact .cons ⟨rfl, hxy⟩ .nil
    | arr xs =>
      obtain ⟨ys, rfl, _⟩ := hxy.of_arr
      exact .nil
    | _ =>
      obtain rfl := hxy.of_leaf rfl
      exact .nil

theorem declared_rel (name : String) :
    List.Forall₂ ChildSchema.Rearranged (declared node name) (declared node' name) := by
  have hget := hn.get? "properties"
  unfold declared
  generalize node.get? "properties" = x, node'.get? "properties" = y at hget ⊢
  cases hget with
  | none => exact .nil
  | @some x y hxy =>
    cases x with
    | obj ps =>
      obtain ⟨qs, rfl, hqs⟩ := hxy.of_obj
      have hname := hqs.get? name
      dsimp only
      generalize Members.get? ps name = a, Members.get? qs name = b at hname ⊢
      cases hname with
      | none => exact .nil
      | some hab => exact .cons ⟨rfl, hab⟩ .nil
    | arr xs =>
      obtain ⟨ys, rfl, _⟩ := hxy.of_arr
      exact .nil
    | _ =>
      obtain rfl := hxy.of_leaf rfl
      exact .nil

/-- Elements have the same schemas, as items keep their places. -/
theorem forElement_rel (token : Token) :
    Answer.Rel (List.Forall₂ ChildSchema.Rearranged) (forElement node token)
      (forElement node' token) := by
  have hget := hn.get? "items"
  have hfurther := ofMember_rel hn "additionalItems"
  unfold forElement
  generalize node.get? "items" = x, node'.get? "items" = y at hget ⊢
  cases hget with
  | none => exact .ok .nil
  | @some x y hxy =>
    cases x with
    | obj ms =>
      obtain ⟨ns, rfl, _⟩ := hxy.of_obj
      exact .ok (.cons ⟨rfl, hxy⟩ .nil)
    | arr xs =>
      obtain ⟨ys, rfl, hys⟩ := hxy.of_arr
      exact amongItems_rel hys hfurther (.outOfRange "list") token
    | bytes os =>
      obtain rfl := hxy.of_leaf rfl
      exact amongItems_rel (forall₂_map fun o _ => .leaf rfl) hfurther (.outOfRange "bytes") token
    | _ =>
      obtain rfl := hxy.of_leaf rfl
      exact .ok .nil

omit hn in
/-- The schemas of the patterns that match a name. -/
def hits (name : String) (m : String × Value) : List ChildSchema :=
  match (Pattern.compile m.1).bind (·.search name) with
  | .ok true => [⟨[.name "patternProperties", .name m.1], m.2⟩]
  | _ => []

omit hn in
theorem matching_eq {name : String} {ms : Members} {l : List ChildSchema}
    (h : matching name ms = .ok l) : l = ms.flatMap (hits name) := by
  induction ms generalizing l with
  | nil => exact (Except.ok.inj h).symm
  | cons m ms ih =>
    obtain ⟨source, schema⟩ := m
    simp only [matching, Answer.do_ok] at h
    obtain ⟨p, hp, matched, hsearch, found, hfound, h⟩ := h
    obtain rfl := Except.ok.inj h
    obtain rfl := ih hfound
    have hhits : (Pattern.compile source).bind (·.search name) = .ok matched := by
      rw [hp]
      exact hsearch
    rw [List.flatMap_cons, hits, hhits]
    cases matched <;> rfl

theorem patterned_paired {name : String} {l l' : List ChildSchema}
    (h : patterned node name = .ok l) (h' : patterned node' name = .ok l') :
    Paired ChildSchema.Rearranged l l' := by
  have hget := hn.get? "patternProperties"
  unfold patterned at h h'
  generalize node.get? "patternProperties" = x, node'.get? "patternProperties" = y at hget h h'
  cases hget with
  | none =>
    obtain rfl := Except.ok.inj h
    obtain rfl := Except.ok.inj h'
    exact .of_forall₂ .nil
  | @some x y hxy =>
    cases hxy with
    | leaf hleaf =>
      cases x with
      | obj => cases hleaf
      | _ =>
        obtain rfl := Except.ok.inj h
        obtain rfl := Except.ok.inj h'
        exact .of_forall₂ .nil
    | list =>
      obtain rfl := Except.ok.inj h
      obtain rfl := Except.ok.inj h'
      exact .of_forall₂ .nil
    | @object ms ns hnodup hkeys hsame =>
      obtain rfl := matching_eq h
      obtain rfl := matching_eq h'
      have hms : Matched ms ns := obj_obj.mp (.object hnodup hkeys hsame)
      refine hms.paired.flatMap ?_
      rintro ⟨source, t⟩ ⟨_, t'⟩ ⟨rfl, htt'⟩
      unfold hits
      dsimp only
      split
      · exact .of_forall₂ (.cons ⟨rfl, htt'⟩ .nil)
      · exact .of_forall₂ .nil

/-- Members have the same schemas, those of patterns in whatever order. -/
theorem forMember_paired {token : Token} {l l' : List ChildSchema}
    (h : forMember node token = .ok l) (h' : forMember node' token = .ok l') :
    Paired ChildSchema.Rearranged l l' := by
  simp only [forMember, Answer.do_ok, Answer.map_ok] at h h'
  obtain ⟨_, ⟨ms, hms, rfl⟩, h⟩ := h
  obtain ⟨_, ⟨ms', hms', rfl⟩, h'⟩ := h'
  obtain rfl := Except.ok.inj h
  obtain rfl := Except.ok.inj h'
  have hfound : Paired ChildSchema.Rearranged (declared node token.text ++ ms)
      (declared node' token.text ++ ms') :=
    (Paired.of_forall₂ (declared_rel hn token.text)).append (patterned_paired hn hms hms')
  rw [hfound.isEmpty_eq]
  split
  · exact .of_forall₂ (ofMember_rel hn "additionalProperties")
  · exact hfound

theorem ofKind_paired {kind : Kind} {token : Token} {l l' : List ChildSchema}
    (h : ofKind kind node token = .ok l) (h' : ofKind kind node' token = .ok l') :
    Paired ChildSchema.Rearranged l l' := by
  cases kind with
  | array =>
    have hrel := forElement_rel hn token
    rw [show forElement node token = .ok l from h, show forElement node' token = .ok l' from h']
      at hrel
    exact .of_forall₂ hrel.of_ok
  | object => exact forMember_paired hn h h'
  | _ =>
    obtain rfl := Except.ok.inj h
    obtain rfl := Except.ok.inj h'
    exact .of_forall₂ .nil

end ChildSchema

/-- Children of rearranged values can be paired by their tokens. -/
theorem Value.Rearranged.children_paired {v w : Value} (h : v.Rearranged w) :
    Paired (fun c c' => c.1 = c'.1 ∧ c.2.Rearranged c'.2) v.children w.children := by
  have hlist {xs ys : List Value} (hxs : List.Forall₂ Rearranged xs ys) :
      Paired (fun (c c' : Token × Value) => c.1 = c'.1 ∧ c.2.Rearranged c'.2)
        (xs.zipIdx.map fun x => (.index x.2, x.1)) (ys.zipIdx.map fun y => (.index y.2, y.1)) := by
    obtain ⟨hlen, hxs⟩ := List.forall₂_iff_get.mp hxs
    refine .of_forall₂ (List.forall₂_iff_get.mpr ⟨by simp [hlen], ?_⟩)
    intro i hi hi'
    simp only [List.length_map, List.length_zipIdx] at hi hi'
    simpa using hxs i hi hi'
  cases v with
  | arr xs =>
    obtain ⟨ys, rfl, hys⟩ := h.of_arr
    exact hlist hys
  | obj ms =>
    obtain ⟨ns, rfl, hns⟩ := h.of_obj
    exact hns.paired.map fun m n hmn => ⟨congrArg Token.name hmn.1, hmn.2⟩
  | bytes os =>
    obtain rfl := h.of_leaf rfl
    exact hlist (forall₂_map fun o _ => .leaf rfl)
  | _ =>
    obtain rfl := h.of_leaf rfl
    exact .of_forall₂ .nil

end Conform
