import Conform.Proofs.Failing
import Conform.Proofs.Members

/-!
Members and elements that a node allows none of. Whether it has too many of them is decided twice:
by a test on the whole object or array, fixed when the node is built, and by the choice of the
schemas for each child. The two decide alike.
-/
namespace Conform

/-- Filtering by answers keeps what the answers say yes to, in order. -/
theorem filterM_eq_filter {α : Type} {f : α → Except Fault Bool} {p : α → Bool} {xs l : List α}
    (hp : ∀ x ∈ xs, ∀ b, f x = .ok b → b = p x) (h : xs.filterM f = .ok l) : l = xs.filter p := by
  have haux (acc : List α) {found : List α} (hfound : List.filterAuxM f xs acc = .ok found) :
      found = (xs.filter p).reverse ++ acc := by
    clear h
    induction xs generalizing acc with
    | nil => exact (Except.ok.inj hfound).symm
    | cons x xs ih =>
      obtain ⟨hx, hxs⟩ := List.forall_mem_cons.mp hp
      obtain ⟨b, hb, hrest⟩ := Answer.do_ok.mp hfound
      rw [ih hxs _ hrest, List.filter_cons, ← hx b hb]
      cases b <;> simp
  unfold List.filterM at h
  obtain ⟨found, hfound, h⟩ := Answer.do_ok.mp h
  have hl : found.reverse = l := Except.ok.inj h
  rw [← hl, haux [] hfound]
  simp

/-- Filtering answers when each answer is there. -/
theorem exists_filterM {α : Type} {f : α → Except Fault Bool} {xs : List α}
    (h : ∀ x ∈ xs, ∃ b, f x = .ok b) : ∃ l, xs.filterM f = .ok l := by
  cases hl : xs.filterM f with
  | ok l => exact ⟨l, rfl⟩
  | error g =>
    unfold List.filterM at hl
    rcases Answer.do_error.mp hl with haux | ⟨l, _, hl⟩
    · obtain ⟨x, hx, hg⟩ := Test.filterAuxM_error haux
      obtain ⟨b, hb⟩ := h x hx
      cases hb.symm.trans hg
    · cases hl

namespace ChildSchema

/-- Whether a node has no schema for a child. -/
def isBare (kind : Kind) (node : Members) (token : Token) : Bool :=
  match ofKind kind node token with
  | .ok [] => true
  | _ => false

theorem isBare_iff {kind : Kind} {node : Members} {token : Token} :
    isBare kind node token = true ↔ ofKind kind node token = .ok [] := by
  unfold isBare
  split
  · rename_i h
    exact iff_of_true rfl h
  · rename_i hno
    exact iff_of_false Bool.false_ne_true hno

variable {node declared sources : Members} {ps : List Pattern} {name : String}

/-- Searching all patterns for the schemas they hold comes to no schema just where none matches. -/
theorem searchAny_of_matching {l : List ChildSchema}
    (hp : List.Forall₂ (fun source p => Pattern.compile source = .ok p) (Members.keys sources) ps)
    (h : matching name sources = .ok l) : Pattern.searchAny name ps = .ok !l.isEmpty := by
  induction sources generalizing ps l with
  | nil =>
    cases hp
    obtain rfl := Except.ok.inj h
    rfl
  | cons m sources ih =>
    obtain ⟨p, qs, hcompile, hrest, rfl⟩ := List.forall₂_cons_left_iff.mp hp
    simp only [matching, Answer.do_ok] at h
    obtain ⟨q, hq, matched, hmatched, found, hfound, h⟩ := h
    obtain rfl : p = q := Except.ok.inj (hcompile.symm.trans hq)
    have hl := Except.ok.inj h
    have hsearch : Pattern.searchAny name (p :: qs) =
        if matched then .ok true else Pattern.searchAny name qs := by
      rw [Pattern.searchAny, hmatched]
      rfl
    rw [hsearch, ih hrest hfound, ← hl]
    cases matched <;> simp

/-- Where no pattern matches, searching them all has answered, and found nothing. -/
theorem matching_of_searchAny
    (hp : List.Forall₂ (fun source p => Pattern.compile source = .ok p) (Members.keys sources) ps)
    (h : Pattern.searchAny name ps = .ok false) : matching name sources = .ok [] := by
  induction sources generalizing ps with
  | nil => rfl
  | cons m sources ih =>
    obtain ⟨p, qs, hcompile, hrest, rfl⟩ := List.forall₂_cons_left_iff.mp hp
    rw [Pattern.searchAny] at h
    obtain ⟨matched, hmatched, h⟩ := Answer.do_ok.mp h
    cases matched with
    | true => cases h
    | false =>
      have hfound : matching name sources = .ok [] := ih hrest h
      rw [matching, hcompile, hfound]
      change (p.search name >>= fun matched => _) = _
      rw [hmatched]
      rfl

theorem patterned_of_sources (h : Keyword.ownOr node "patternProperties" (.obj []) = .obj sources) :
    patterned node name = matching name sources := by
  unfold patterned
  rcases Keyword.ownOr_eq_obj.mp h with hsome | ⟨hnone, rfl⟩
  · rw [hsome]
  · rw [hnone]
    rfl

theorem declared_eq_nil (h : Keyword.ownOr node "properties" (.obj []) = .obj declared) :
    ChildSchema.declared node name = [] ↔ name ∉ Members.keys declared := by
  rw [← Members.get?_eq_none_iff]
  unfold ChildSchema.declared
  rcases Keyword.ownOr_eq_obj.mp h with hsome | ⟨hnone, rfl⟩
  · rw [hsome]
    dsimp only
    cases Members.get? declared name with
    | none => simp
    | some t => simp
  · rw [hnone]
    exact iff_of_true rfl rfl

/-- A node that allows nothing else has no schema to fall back on. -/
theorem forMember_of_false (h : node.get? "additionalProperties" = some (.bool false))
    (token : Token) : forMember node token =
      (patterned node token.text).map (ChildSchema.declared node token.text ++ ·) := by
  have hnone : ofMember node "additionalProperties" = [] := by
    unfold ofMember
    rw [h]
  unfold forMember
  rw [hnone]
  cases (patterned node token.text).map (ChildSchema.declared node token.text ++ ·) with
  | error f => rfl
  | ok found => cases found <;> rfl

section Closed

variable (hno : node.get? "additionalProperties" = some (.bool false))
  (hd : Keyword.ownOr node "properties" (.obj []) = .obj declared)
  (hs : Keyword.ownOr node "patternProperties" (.obj []) = .obj sources)
  (hp : Keyword.patterns (Members.keys sources) = .ok ps)
include hno hd hs hp

/-- Where the schemas for a member can be told, so can whether it is declared. -/
theorem isUndeclared_of_forMember {ts : List ChildSchema}
    (h : forMember node (.name name) = .ok ts) :
    Test.isUndeclared (Members.keys declared) ps name = .ok ts.isEmpty := by
  rw [forMember_of_false hno, Token.text, patterned_of_sources hs] at h
  obtain ⟨l, hl, rfl⟩ := Answer.map_ok.mp h
  have hsearch := searchAny_of_matching (Keyword.patterns_ok.mp hp) hl
  unfold Test.isUndeclared
  by_cases hname : name ∈ Members.keys declared
  · have hne : ChildSchema.declared node name ≠ [] := by
      intro hnil
      exact (declared_eq_nil hd).mp hnil hname
    rw [if_pos (List.contains_iff_mem.mpr hname)]
    simp [hne]
  · have hnil : ChildSchema.declared node name = [] := (declared_eq_nil hd).mpr hname
    rw [if_neg (by simpa using hname), hsearch, hnil]
    simp [Except.map]

/-- A member is undeclared just where the node has no schema for it. -/
theorem isUndeclared_iff : Test.isUndeclared (Members.keys declared) ps name = .ok true ↔
    isBare .object node (.name name) = true := by
  rw [isBare_iff]
  constructor
  · intro h
    unfold Test.isUndeclared at h
    split at h
    · cases h
    · rename_i hname
      obtain ⟨found, hfound, hnot⟩ := Answer.map_ok.mp h
      obtain rfl : found = false := by simpa using hnot
      have hmatching := matching_of_searchAny (Keyword.patterns_ok.mp hp) hfound
      have hnil : ChildSchema.declared node name = [] :=
        (declared_eq_nil hd).mpr (by simpa using hname)
      rw [ofKind, forMember_of_false hno, Token.text, patterned_of_sources hs, hmatching, hnil]
      rfl
  · intro h
    exact isUndeclared_of_forMember hno hd hs hp h

end Closed

end ChildSchema

namespace Test

open ChildSchema

/-- The members of an object that a node has no schema for, in the order of their names. -/
def unwanted (node ms : Members) : List String :=
  sortedNames ((Members.keys ms).filter fun name => isBare .object node (.name name))

theorem mem_unwanted {node ms : Members} {name : String} : name ∈ unwanted node ms ↔
    name ∈ Members.keys ms ∧ ofKind .object node (.name name) = .ok [] := by
  rw [unwanted, sortedNames, List.mem_mergeSort, List.mem_filter, isBare_iff]

section Closed

variable {node declared sources ms : Members} {ps : List Pattern}
  (hno : node.get? "additionalProperties" = some (.bool false))
  (hd : Keyword.ownOr node "properties" (.obj []) = .obj declared)
  (hs : Keyword.ownOr node "patternProperties" (.obj []) = .obj sources)
  (hp : Keyword.patterns (Members.keys sources) = .ok ps)
include hno hd hs hp

/-- The names that a closed object has too many are those without a schema. -/
theorem extraNames_eq {names : List String}
    (h : extraNames (Members.keys declared) ps (.obj ms) = .ok names) :
    names = unwanted node ms := by
  obtain ⟨found, hfound, rfl⟩ := Answer.map_ok.mp h
  have hbare : ∀ name ∈ Members.keys ms, ∀ b,
      isUndeclared (Members.keys declared) ps name = .ok b →
        b = isBare .object node (.name name) := by
    intro name _ b hb
    have hiff : isUndeclared (Members.keys declared) ps name = .ok true ↔
        isBare .object node (.name name) = true := isUndeclared_iff hno hd hs hp
    rw [hb] at hiff
    rw [Bool.eq_iff_iff, ← hiff, Except.ok.injEq]
  rw [filterM_eq_filter hbare hfound]
  rfl

theorem exists_extraNames
    (h : ∀ m ∈ ms, ∃ ts, ofKind .object node (.name m.1) = .ok ts) :
    ∃ names, extraNames (Members.keys declared) ps (.obj ms) = .ok names := by
  have hanswers : ∀ name ∈ Members.keys ms,
      ∃ b, isUndeclared (Members.keys declared) ps name = .ok b := by
    intro name hname
    obtain ⟨m, hm, rfl⟩ := List.mem_map.mp hname
    obtain ⟨ts, hts⟩ := h m hm
    exact ⟨ts.isEmpty, isUndeclared_of_forMember hno hd hs hp hts⟩
  obtain ⟨found, hfound⟩ := exists_filterM hanswers
  exact ⟨sortedNames found, Answer.map_ok.mpr ⟨found, hfound, rfl⟩⟩

/-- What the test of a closed node finds: one thing that lists the members without a schema, or
nothing if there are none. -/
theorem closed_finding {s : Site} {r : Option Diagnostic} (hv : s.value = .obj ms)
    (h : (closed (Members.keys declared) ps).finding s = .ok r) :
    r = if (unwanted node ms).isEmpty then none else some (s.diagnostic
      ("additional properties are not allowed: " ++ commaList (unwanted node ms))
      (some "additionalProperties") [("unwanted", texts (unwanted node ms))]) := by
  simp only [finding, hv] at h
  obtain ⟨names, hnames, h⟩ := Answer.do_ok.mp h
  rw [extraNames_eq hno hd hs hp hnames, complainUnless_plain] at h
  exact (Except.ok.inj h).symm

theorem exists_closed_finding {s : Site} (hv : s.value = .obj ms)
    (h : ∀ m ∈ ms, ∃ ts, ofKind .object node (.name m.1) = .ok ts) :
    ∃ r, (closed (Members.keys declared) ps).finding s = .ok r := by
  obtain ⟨names, hnames⟩ := exists_extraNames hno hd hs hp h
  simp only [finding, hv, hnames]
  cases names with
  | nil => exact ⟨none, rfl⟩
  | cons name names => exact ⟨some _, rfl⟩

end Closed

end Test

namespace ChildSchema

variable {node : Members} {xs : List Value}

/-- An element has no schema just where it stands beyond the end of the list. -/
theorem forElement_of_false (hitems : node.get? "items" = some (.arr xs))
    (hno : node.get? "additionalItems" = some (.bool false)) (i : Nat) :
    forElement node (.index i) = .ok [] ↔ xs.length ≤ i := by
  have hnone : ofMember node "additionalItems" = [] := by
    unfold ofMember
    rw [hno]
  simp only [forElement, hitems, Value.elements?, position, hnone]
  change (if (i : Int) < xs.length then _ else _) = _ ↔ _
  by_cases hlt : i < xs.length
  · have helement : elementAt? xs i = some xs[i] := by
      rw [elementAt?_nat, List.getElem?_eq_getElem hlt]
    rw [if_pos (by omega), helement]
    constructor
    · intro h
      cases h
    · intro h
      omega
  · rw [if_neg (by omega)]
    exact iff_of_true rfl (by omega)

/-- Some element has no schema just where there are more elements than schemas. -/
theorem exists_bare_iff (hitems : node.get? "items" = some (.arr xs))
    (hno : node.get? "additionalItems" = some (.bool false)) (n : Nat) :
    (∃ i < n, ofKind .array node (.index i) = .ok []) ↔ xs.length < n := by
  constructor
  · rintro ⟨i, hi, hnone⟩
    have hle : xs.length ≤ i := (forElement_of_false hitems hno i).mp hnone
    omega
  · intro hlt
    exact ⟨xs.length, hlt, (forElement_of_false hitems hno xs.length).mpr le_rfl⟩

end ChildSchema

namespace Test

/-- The length of an array fails just where some element has no schema. -/
theorem tupleLength_fails_iff {node : Members} {xs ys : List Value} {s : Site}
    (hitems : node.get? "items" = some (.arr xs))
    (hno : node.get? "additionalItems" = some (.bool false)) (hv : s.value = .arr ys) :
    (∃ d, (tupleLength xs.length).finding s = .ok (some d)) ↔
      ∃ i < ys.length, ChildSchema.ofKind .array node (.index i) = .ok [] := by
  rw [ChildSchema.exists_bare_iff hitems hno, (tells_tupleLength hv).some_iff, not_le,
    and_iff_left not_false]

end Test

end Conform
