import Conform.Proofs.Rearranged
import Conform.Proofs.Resolution

/-!
Pointers and the positions of a document. No two positions of a document have one pointer, and the
walk along a pointer finds exactly the position that has it: a member by its name, an element by the
one text of its number. The walk says so if there is none, except where it comes to a list with a
token that is a number of more digits than are read.
-/
namespace Conform

namespace Value

variable {v : Value}

theorem Distinct.child (h : v.Distinct) {c : Token × Value} (hc : c ∈ v.children) :
    c.2.Distinct := by
  rcases child_cases hc with ⟨ms, name, rfl, _, hmem⟩ | ⟨xs, i, _, hxs, _, hx⟩
  · exact h.of_mem hmem
  · have hmem : c.2 ∈ xs := List.mem_of_getElem? hx
    cases v with
    | arr ys =>
      obtain rfl : ys = xs := Option.some.inj hxs
      exact h.of_mem_arr hmem
    | bytes os =>
      obtain rfl : os.map (fun o => Value.int o.toNat) = xs := Option.some.inj hxs
      obtain ⟨o, _, ho⟩ := List.mem_map.mp hmem
      rw [← ho]
      exact .leaf rfl
    | _ => cases hxs

/-- Each number has a text of its own. -/
theorem index_text_injective {i j : Nat} (h : (Token.index i).text = (Token.index j).text) :
    i = j := by
  have htexts : (toString i).toList = (toString j).toList := congrArg String.toList h
  rw [Pointer.toList_toString, Pointer.toList_toString] at htexts
  -- the digits can be read back
  have hvalues := congrArg Real.digitsValue htexts
  rw [Pointer.digitsValue_toDigits, Pointer.digitsValue_toDigits] at hvalues
  exact hvalues

/-- No two children have tokens of one text. -/
theorem nodup_children (h : v.Distinct) : (v.children.map (·.1.text)).Nodup := by
  have hlisted (xs : List Value) :
      ((xs.zipIdx.map fun x => (Token.index x.2, x.1)).map (·.1.text)).Nodup := by
    have htexts : (xs.zipIdx.map fun x => (Token.index x.2, x.1)).map (·.1.text) =
        (List.range' 0 xs.length).map fun i : Nat => (Token.index i).text := by
      rw [List.map_map, ← List.zipIdx_map_snd 0 xs, List.map_map]
      rfl
    rw [htexts]
    exact List.Nodup.map (fun _ _ h => index_text_injective h) List.nodup_range'
  cases v with
  | obj ms =>
    have hnames : (children (.obj ms)).map (·.1.text) = Members.keys ms := by
      rw [children, List.map_map]
      rfl
    rw [hnames]
    exact h.nodup
  | _ => exact hlisted _

/-- The tokens of a position lead to no other position. -/
theorem nodup_positions {v : Value} (h : v.Distinct) : (v.positions.map Prod.fst).Nodup := by
  have hfirsts : v.positions.map Prod.fst = [] :: v.children.flatMap fun c =>
      (c.2.positions.map Prod.fst).map (c.1.text :: ·) := by
    rw [positions_eq, List.map_cons, List.map_flatMap]
    simp only [List.map_map]
    rfl
  rw [hfirsts, List.nodup_cons, List.nodup_flatMap]
  refine ⟨by simp, ?_, ?_⟩
  · intro c hc
    -- the recursion is on the value: the tokens of a child go on as the child's positions do
    have hlt : c.2.size < v.size := size_lt_of_mem_children hc
    exact (nodup_positions (h.child hc)).map fun _ _ htokens => (List.cons.inj htokens).2
  · have hdistinct := List.pairwise_map.mp (nodup_children h)
    apply hdistinct.imp
    intro a b hne tokens ha hb
    obtain ⟨as, _, rfl⟩ := List.mem_map.mp ha
    obtain ⟨bs, _, htokens⟩ := List.mem_map.mp hb
    exact hne (List.cons.inj htokens).1.symm
termination_by v.size

end Value

namespace Pointer

variable {p : Pointer} {d v w : Value} {f : Fault}

/-- A number of more digits than are read has a text that is not read. -/
theorem isOverlong_toString {i : Nat} (h : Text.maxIntegerDigits < (toString i).length) :
    IsOverlong (toString i) := by
  have hchars : (toString i).toList = Nat.toDigits 10 i := toList_toString i
  have hpos : 0 < i := by
    apply Nat.pos_of_ne_zero
    rintro rfl
    exact absurd h (by decide)
  refine ⟨?_, ?_, h⟩
  · rw [hchars]
    exact all_isDigit_toDigits i
  · rw [hchars]
    exact head?_toDigits hpos

/-- A token is read as a number exactly if it is the text of that number, as far as texts are
read. -/
theorem index?_ok {token : String} {i : Nat} : index? token = .ok (some i) ↔
    token = toString i ∧ token.length ≤ Text.maxIntegerDigits := by
  constructor
  · intro h
    have htext : token = toString i := eq_toString_of_index? h
    refine ⟨htext, ?_⟩
    by_contra hlong
    have hover : IsOverlong token := by
      rw [htext] at hlong ⊢
      exact isOverlong_toString (Nat.not_le.mp hlong)
    rw [index?_error.mpr ⟨hover, rfl⟩] at h
    cases h
  · rintro ⟨rfl, hlength⟩
    exact index?_toString hlength

/-- A step that fails says that nothing is there, or cannot read a number. -/
theorem walk_one_error {t : String} {depth : Nat} (h : walk p depth [t] v = .error f) :
    (∃ reached reason, f = .dangling p reached reason) ∨ ∃ n, f = .digitLimit n := by
  unfold walk at h
  dsimp only at h
  split at h
  · split at h
    · cases h
    · exact .inl ⟨_, _, (Except.error.inj h).symm⟩
  · split at h
    · rename_i g hg
      obtain rfl := Except.error.inj h
      exact .inr ⟨_, (index?_error.mp hg).2⟩
    · exact .inl ⟨_, _, (Except.error.inj h).symm⟩
    · split at h
      · cases h
      · exact .inl ⟨_, _, (Except.error.inj h).symm⟩
  · exact .inl ⟨_, _, (Except.error.inj h).symm⟩

theorem walk_error {ts : List String} {depth : Nat} (h : walk p depth ts v = .error f) :
    (∃ reached reason, f = .dangling p reached reason) ∨ ∃ n, f = .digitLimit n := by
  induction ts generalizing depth v with
  | nil => cases h
  | cons t ts ih =>
    rw [walk_cons, Answer.bind_error] at h
    rcases h with h | ⟨u, _, h⟩
    · exact walk_one_error h
    · exact ih h

/-- The token of a child leads to it, unless it is a number of too many digits. -/
theorem walk_child (hv : v.Distinct) {c : Token × Value} (hc : c ∈ v.children) (p : Pointer)
    (depth : Nat) : walk p depth [c.1.text] v = .ok c.2 ∨
      ∃ n, walk p depth [c.1.text] v = .error (.digitLimit n) := by
  rcases Value.child_cases hc with ⟨ms, name, rfl, hname, hmem⟩ | ⟨xs, i, hm, hxs, hi, hx⟩
  · left
    have hget : Members.get? ms c.1.text = some c.2 := by
      rw [hname]
      exact Value.get?_of_mem hv.nodup hmem
    simp only [walk, Value.members?, hget]
  · have htext : c.1.text = toString i := by
      rw [hi]
      rfl
    rw [htext]
    by_cases hlength : (toString i).length ≤ Text.maxIntegerDigits
    · left
      simp only [walk, hm, hxs, index?_ok.mpr ⟨rfl, hlength⟩, hx]
    · right
      have hover := isOverlong_toString (Nat.not_le.mp hlength)
      exact ⟨_, walk_one_digitLimit.mpr ⟨⟨xs, hxs⟩, hover, rfl⟩⟩

/-- The tokens of a position lead to it, unless one of them is a number of too many digits. -/
theorem walk_position {ts : List String} (hv : v.Distinct) (h : (ts, w) ∈ v.positions)
    (p : Pointer) (depth : Nat) :
    walk p depth ts v = .ok w ∨ ∃ n, walk p depth ts v = .error (.digitLimit n) := by
  -- the walk takes one token for each child on the way
  induction ts generalizing depth v with
  | nil =>
    rw [Value.mem_positions_nil.mp h]
    exact .inl rfl
  | cons t ts ih =>
    obtain ⟨c, hc, rfl, hw⟩ := Value.mem_positions_cons.mp h
    rw [walk_cons]
    rcases walk_child hv hc p depth with hstep | ⟨n, hstep⟩
    · rw [hstep]
      exact ih (hv.child hc) hw (depth + 1)
    · rw [hstep]
      exact .inr ⟨n, rfl⟩

/-- Whether the tokens of a pointer lead to a list of the document, where the next one is a number of
more digits than are read. -/
def Overlong (p : Pointer) (d : Value) : Prop :=
  ∃ pre token post w xs, p.tokens = pre ++ token :: post ∧ (pre, w) ∈ d.positions ∧
    w.elements? = some xs ∧ IsOverlong token

theorem overlong_iff (hd : d.Distinct) :
    p.Overlong d ↔ ∃ n, p.resolve d = .error (.digitLimit n) := by
  constructor
  · rintro ⟨pre, token, post, w, xs, htokens, hw, hxs, hover⟩
    rcases walk_position hd hw p 0 with hpre | ⟨n, hpre⟩
    · exact ⟨_, walk_digitLimit.mpr ⟨pre, token, post, w, xs, htokens, hpre, hxs, hover, rfl⟩⟩
    · -- a token before this one is too long already
      obtain ⟨pre', token', post', w', xs', hpre', hw', hxs', hover', rfl⟩ :=
        walk_digitLimit.mp hpre
      have hall : p.tokens = pre' ++ token' :: (post' ++ token :: post) := by
        rw [htokens, hpre', List.append_assoc, List.cons_append]
      exact ⟨_, walk_digitLimit.mpr
        ⟨pre', token', post' ++ token :: post, w', xs', hall, hw', hxs', hover', rfl⟩⟩
  · rintro ⟨n, h⟩
    obtain ⟨pre, token, post, w, xs, htokens, hw, hxs, hover, _⟩ := walk_digitLimit.mp h
    exact ⟨pre, token, post, w, xs, htokens, mem_positions_of_walk hw, hxs, hover⟩

/-- Resolving finds exactly the positions of a document, which are the document itself and, behind
the token of each child, the positions of the child. No two positions have one pointer. Where there
is no position, it is said that the pointer leads nowhere; only a token that is a number of too many
digits, at a list that the tokens before it lead to, is refused as a bad value instead, whatever is
behind it. The tokens that are read as numbers are the texts of these numbers and no others. -/
theorem resolve_finds_positions (hd : d.Distinct) (p : Pointer) :
    (¬ p.Overlong d → (∀ v, p.resolve d = .ok v ↔ (p.tokens, v) ∈ d.positions) ∧
      ∀ f, p.resolve d = .error f → f.label = "PointerResolutionError") ∧
    (p.Overlong d → ∃ f, p.resolve d = .error f ∧ f.label = "ValueError") ∧
    (d.positions = ([], d) :: d.children.flatMap fun c =>
      c.2.positions.map fun q => (c.1.text :: q.1, q.2)) ∧
    (d.positions.map Prod.fst).Nodup ∧
    ∀ token i, index? token = .ok (some i) ↔
      token = toString i ∧ token.length ≤ Text.maxIntegerDigits := by
  refine ⟨?_, ?_, d.positions_eq, Value.nodup_positions hd, fun token i => index?_ok⟩
  · intro hshort
    have hread (n : Nat) : p.resolve d ≠ .error (.digitLimit n) :=
      fun h => hshort ((overlong_iff hd).mpr ⟨n, h⟩)
    refine ⟨fun v => ⟨mem_positions_of_walk, ?_⟩, ?_⟩
    · intro hv
      rcases walk_position hd hv p 0 with h | ⟨n, h⟩
      · exact h
      · exact absurd h (hread n)
    · intro f hf
      rcases walk_error hf with ⟨_, _, rfl⟩ | ⟨n, rfl⟩
      · rfl
      · exact absurd hf (hread n)
  · intro hlong
    obtain ⟨n, h⟩ := (overlong_iff hd).mp hlong
    exact ⟨_, h, rfl⟩

/-- An element is found by the text of its number, and under no other one. -/
theorem resolve_finds_positions_element :
    let d : Value := .obj [("a", .arr [.int 1, .int 1])]
    d.Distinct ∧ (⟨["a", "1"]⟩ : Pointer).resolve d = .ok (.int 1) ∧
      (["a", "1"], Value.int 1) ∈ d.positions ∧ (["a", "01"], Value.int 1) ∉ d.positions ∧
      ∃ f, (⟨["a", "01"]⟩ : Pointer).resolve d = .error f ∧ f.label = "PointerResolutionError" := by
  intro d
  have hd : d.Distinct := by
    refine .object (by decide) (List.forall_mem_singleton.mpr (.list fun x hx => ?_))
    obtain rfl : x = .int 1 := by simpa using hx
    exact .leaf rfl
  have hshort (token : String) (h : ∀ n, (⟨["a", token]⟩ : Pointer).resolve d ≠
      .error (.digitLimit n)) : ¬ (⟨["a", token]⟩ : Pointer).Overlong d := by
    intro hover
    obtain ⟨n, hn⟩ := (overlong_iff hd).mp hover
    exact h n hn
  have hone : (⟨["a", "1"]⟩ : Pointer).resolve d = .ok (.int 1) := rfl
  have hzero : (⟨["a", "01"]⟩ : Pointer).resolve d =
      .error (.dangling ⟨["a", "01"]⟩ ⟨["a", "01"]⟩ (.noElement "01")) := rfl
  obtain ⟨hfound, -⟩ := (resolve_finds_positions hd ⟨["a", "1"]⟩).1
    (hshort "1" (by rw [hone]; nofun))
  obtain ⟨hnone, hlabel⟩ := (resolve_finds_positions hd ⟨["a", "01"]⟩).1
    (hshort "01" (by rw [hzero]; nofun))
  refine ⟨hd, hone, (hfound (.int 1)).mp hone, ?_, _, hzero, hlabel _ hzero⟩
  intro h
  have hok := (hnone (.int 1)).mpr h
  rw [hzero] at hok
  cases hok

/-- A number of more digits than are read is refused as a bad value, though it leads nowhere. -/
theorem overlong_number_refused :
    let p : Pointer := ⟨[String.ofList (List.replicate 4301 '1')]⟩
    let d : Value := .arr []
    (∀ v, (p.tokens, v) ∉ d.positions) ∧ p.resolve d = .error (.digitLimit 4301) ∧
      ¬ ∀ f, p.resolve d = .error f → f.label = "PointerResolutionError" := by
  intro p d
  have hover : IsOverlong (String.ofList (List.replicate 4301 '1')) := by
    refine ⟨?_, ?_, ?_⟩
    · rw [String.toList_ofList, List.all_replicate]
      rfl
    · rw [String.toList_ofList]
      decide
    · rw [String.toList_ofList, List.length_replicate]
      decide
  have hrefused : walk p 0 [String.ofList (List.replicate 4301 '1')] d =
      .error (.digitLimit 4301) := by
    refine walk_one_digitLimit.mpr ⟨⟨[], rfl⟩, hover, ?_⟩
    rw [String.toList_ofList, List.length_replicate]
  refine ⟨?_, hrefused, fun h => absurd (h _ hrefused) (by decide)⟩
  intro v hv
  obtain ⟨c, hc, _⟩ := Value.mem_positions_cons.mp hv
  -- an empty list has no children
  cases hc

end Pointer

end Conform
