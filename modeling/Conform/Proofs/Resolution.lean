import Conform.Judge
import Conform.Proofs.Outcome
import Conform.Proofs.References
import Conform.Proofs.Splitting

/-!
Where references lead, and what is said if they lead nowhere. A location that a reference leads to
is one of a registered document, with the node that stands there. A reference that does not lead
anywhere is complained about, unless its text cannot be taken apart or names a position by too many
digits; these faults go through. The digits count only where a walk along the pointer comes to
elements with them.
-/
namespace Conform

namespace Pointer

/-- A token for a position, with more digits than are read. -/
structure IsOverlong (token : String) : Prop where
  digits : token.toList.all Char.isDigit
  plain : token.toList.head? ≠ some '0'
  long : Text.maxIntegerDigits < token.toList.length

theorem index?_error {token : String} {f : Fault} : index? token = .error f ↔
    IsOverlong token ∧ f = .digitLimit token.toList.length := by
  unfold index?
  dsimp only
  constructor
  · intro h
    split at h
    · cases h
    · rename_i hdigits
      split at h
      · cases h
      · rename_i hplain
        split at h
        · rename_i hlong
          simp only [Bool.or_eq_true, not_or] at hdigits
          refine ⟨⟨by simpa using hdigits.2, ?_, hlong⟩, (Except.error.inj h).symm⟩
          intro hzero
          have hmany : 1 < token.toList.length := by
            unfold Text.maxIntegerDigits at hlong
            omega
          exact hplain (by simp [hmany, hzero])
        · cases h
  · intro h
    obtain ⟨⟨hdigits, hplain, hlong⟩, rfl⟩ := h
    have hsome : token.toList.isEmpty = false := by
      cases hcs : token.toList with
      | nil => simp [hcs] at hlong
      | cons => rfl
    rw [if_neg (by simp [hsome, hdigits]), if_neg (by simp [hplain]), if_pos hlong]

/-- A walk is one step after the other. -/
theorem walk_cons (p : Pointer) (depth : Nat) (t : String) (ts : List String) (v : Value) :
    walk p depth (t :: ts) v = (walk p depth [t] v).bind (walk p (depth + 1) ts) := by
  unfold walk
  dsimp only
  split
  · split <;> rfl
  · split
    · rfl
    · rfl
    · split <;> rfl
  · rfl

/-- A step is stopped by too many digits just at elements. -/
theorem walk_one_digitLimit {p : Pointer} {t : String} {depth n : Nat} {v : Value} :
    walk p depth [t] v = .error (.digitLimit n) ↔
      (∃ xs, v.elements? = some xs) ∧ IsOverlong t ∧ n = t.toList.length := by
  constructor
  · intro h
    unfold walk at h
    dsimp only at h
    split at h
    · split at h <;> cases h
    · rename_i xs _ hxs
      split at h
      · rename_i f hf
        obtain rfl := Except.error.inj h
        obtain ⟨hover, hn⟩ := index?_error.mp hf
        exact ⟨⟨xs, hxs⟩, hover, Fault.digitLimit.inj hn⟩
      · cases h
      · split at h <;> cases h
    · cases h
  · intro h
    obtain ⟨⟨xs, hxs⟩, hover, rfl⟩ := h
    have hnone : v.members? = none := by
      cases v with
      | obj ms => cases hxs
      | _ => rfl
    simp only [walk, hnone, hxs, index?_error.mpr ⟨hover, rfl⟩]

/-- A walk is stopped by too many digits just if it comes to elements with such a token. -/
theorem walk_digitLimit {p : Pointer} {ts : List String} {depth n : Nat} {v : Value} :
    walk p depth ts v = .error (.digitLimit n) ↔ ∃ pre token post w xs,
      ts = pre ++ token :: post ∧ walk p depth pre v = .ok w ∧ w.elements? = some xs ∧
        IsOverlong token ∧ n = token.toList.length := by
  -- the induction is on the tokens, of which the walk takes one at a time
  induction ts generalizing depth v with
  | nil => simp [walk]
  | cons t ts ih =>
    rw [walk_cons, Answer.bind_error, walk_one_digitLimit]
    constructor
    · intro h
      rcases h with ⟨⟨xs, hxs⟩, hover, hn⟩ | ⟨u, hu, h⟩
      · exact ⟨[], t, ts, v, xs, rfl, rfl, hxs, hover, hn⟩
      · obtain ⟨pre, token, post, w, xs, rfl, hw, hrest⟩ := ih.mp h
        refine ⟨t :: pre, token, post, w, xs, rfl, ?_, hrest⟩
        rw [walk_cons, hu]
        exact hw
    · intro h
      obtain ⟨pre, token, post, w, xs, hts, hw, hxs, hover, hn⟩ := h
      -- the token is the first one, or there is a step before it
      cases pre with
      | nil =>
        obtain ⟨rfl, rfl⟩ := List.cons.inj hts
        obtain rfl := Except.ok.inj hw
        exact .inl ⟨⟨xs, hxs⟩, hover, hn⟩
      | cons u pre =>
        obtain ⟨rfl, rfl⟩ := List.cons.inj hts
        rw [walk_cons] at hw
        obtain ⟨u, hu, hw⟩ := Answer.bind_ok.mp hw
        exact .inr ⟨u, hu, ih.mpr ⟨pre, token, post, w, xs, rfl, hw, hxs, hover, hn⟩⟩

end Pointer

namespace Documents

/-- The node that stands at a location: its document is registered, and its pointer leads there. -/
def Stands (d : Documents) (l : Location) (v : Value) : Prop :=
  ∃ document, d.entries.get? l.uri = some document ∧ l.pointer.resolve document = .ok v

variable {d : Documents} {uri ref : String} {f : Fault}

theorem Stands.unique {l : Location} {v w : Value} (hv : d.Stands l v) (hw : d.Stands l w) :
    v = w := by
  obtain ⟨document, hd, hv⟩ := hv
  obtain ⟨document', hd', hw⟩ := hw
  obtain rfl := Option.some.inj (hd.symm.trans hd')
  exact Except.ok.inj (hv.symm.trans hw)

theorem stands_of_resolve {reference : Value} {base l : Location} {v : Value}
    (h : d.resolve reference base = .ok (l, v)) : d.Stands l v := by
  cases reference with
  | str ref =>
    rw [resolve_eq] at h
    obtain ⟨⟨key, fragment⟩, _, h⟩ := Answer.bind_ok.mp h
    dsimp only at h
    split at h
    · cases h
    · rename_i document hd
      obtain ⟨p, _, h⟩ := Answer.do_ok.mp h
      obtain ⟨node, hnode, h⟩ := Answer.do_ok.mp h
      obtain ⟨rfl, rfl⟩ := Prod.mk.inj (Except.ok.inj h)
      exact ⟨document, hd, hnode⟩
  | _ => cases h

/-- The address of a document is its own address. -/
theorem address_of_not_mem (h : '#' ∉ uri.toList) : address uri = .ok uri := by
  unfold address
  rw [Uri.defragment_of_not_mem h]
  rfl

/-- A text has no destination just if it cannot be joined, or then cannot be taken apart. -/
theorem destination_error : destination uri ref = .error f ↔
    Uri.join uri ref = .error f ∨
      ∃ target, Uri.join uri ref = .ok target ∧ Uri.defragment target = .error f := by
  unfold destination
  rw [Answer.do_error]
  refine or_congr_right (exists_congr fun target => and_congr_right fun _ => ?_)
  rw [Answer.do_error]
  constructor
  · intro h
    rcases h with h | ⟨⟨key, fragment⟩, hsplit, h⟩
    · exact h
    · -- without its fragment the text has an address
      dsimp only at h
      rw [address_of_not_mem (Uri.mark_not_mem_of_defragment hsplit)] at h
      split at h
      · cases h
      · cases h
  · exact .inl

/-- A reference whose pointer comes to elements, in the document that it is to, with a token of too
many digits. -/
def Overlong (d : Documents) (uri ref : String) : Prop :=
  ∃ key fragment document p pre token post w xs,
    destination uri ref = .ok (key, fragment) ∧ d.entries.get? key = some document ∧
    fragmentPointer fragment = .ok p ∧ p.tokens = pre ++ token :: post ∧
    Pointer.walk p 0 pre document = .ok w ∧ w.elements? = some xs ∧ Pointer.IsOverlong token

theorem overlong_iff : d.Overlong uri ref ↔ ∃ n, d.Unreadable uri ref (.digitLimit n) := by
  constructor
  · intro h
    obtain ⟨key, fragment, document, p, pre, token, post, w, xs, hdest, hd, hp, hts, hw, hxs,
      hover⟩ := h
    refine ⟨token.toList.length, .position hdest hd hp ?_⟩
    exact Pointer.walk_digitLimit.mpr ⟨pre, token, post, w, xs, hts, hw, hxs, hover, rfl⟩
  · intro h
    obtain ⟨n, h⟩ := h
    cases h with
    | text h =>
      obtain ⟨m, hm⟩ := badValue_of_destination h
      cases hm
    | position hdest hd hp h =>
      obtain ⟨pre, token, post, w, xs, hts, hw, hxs, hover, _⟩ := Pointer.walk_digitLimit.mp h
      exact ⟨_, _, _, _, pre, token, post, w, xs, hdest, hd, hp, hts, hw, hxs, hover⟩

/-- A fault of resolving is no complaint about the reference just if its text cannot be joined or
taken apart, or names a position by too many digits. -/
theorem isReference_eq_false_iff {reference : Value} {base : Location}
    (h : d.resolve reference base = .error f) :
    f.isReference = false ↔ ∃ ref, reference = .str ref ∧
      (Uri.join base.uri ref = .error f ∨
        (∃ target, Uri.join base.uri ref = .ok target ∧ Uri.defragment target = .error f) ∨
        d.Overlong base.uri ref) := by
  constructor
  · intro hf
    cases reference with
    | str ref =>
      have hunreadable : d.Unreadable base.uri ref f := unreadable_iff.mpr ⟨h, hf⟩
      refine ⟨ref, rfl, ?_⟩
      cases hunreadable with
      | text h =>
        rcases destination_error.mp h with h | h
        · exact .inl h
        · exact .inr (.inl h)
      | position hdest hd hp hwalk =>
        exact .inr (.inr (overlong_iff.mpr ⟨_, .position hdest hd hp hwalk⟩))
    | _ =>
      obtain rfl := Except.error.inj h
      cases hf
  · intro hcause
    obtain ⟨ref, rfl, hcause | ⟨target, _, hcause⟩ | hcause⟩ := hcause
    · obtain ⟨m, rfl⟩ := Uri.badValue_of_join hcause
      rfl
    · obtain ⟨m, rfl⟩ := Uri.badValue_of_defragment hcause
      rfl
    · obtain ⟨n, hn⟩ := overlong_iff.mp hcause
      obtain rfl := Except.error.inj (h.symm.trans (unreadable_iff.mp hn).1)
      rfl

end Documents

theorem Logic.outcome_reference_error {e : Setting} {J : Judge} {s : Site} {ref : String}
    {f : Fault} (h : e.documents.resolve (.str ref) s.location = .error f) :
    (judgeReference e J ref s).outcome =
      if f.isReference then ⟨[], [unresolved s ref f], .ok false⟩ else ⟨[], [], .error f⟩ := by
  unfold judgeReference
  rw [h]
  dsimp only
  split
  · exact Step.outcome_fail _
  · exact Step.outcome_abort _

namespace Documents

/-- What comes of a reference, whatever it is and wherever it stands. It leads to a node of a
registered document, or it fails; and it fails with a complaint about the reference, which a keyword
turns into one diagnostic and a no, except where its text cannot be joined with the base or taken
apart, or names a position by too many digits, in which case the fault goes through. -/
theorem resolve_settled (d : Documents) (reference : Value) (base : Location) :
    (∀ l v, d.resolve reference base = .ok (l, v) → d.Stands l v) ∧
    (∀ f, d.resolve reference base = .error f →
      (f.isReference = false ↔ ∃ ref, reference = .str ref ∧
        (Uri.join base.uri ref = .error f ∨
          (∃ target, Uri.join base.uri ref = .ok target ∧ Uri.defragment target = .error f) ∨
          d.Overlong base.uri ref))) ∧
    ∀ (e : Setting) (J : Judge) (s : Site) (ref : String) (f : Fault),
      e.documents = d → s.location = base → reference = .str ref →
      d.resolve reference base = .error f →
      (Logic.judgeReference e J ref s).outcome =
        if f.isReference then
          ⟨[], [s.diagnostic ("cannot resolve reference " ++ Text.quoted ref ++ ": " ++ f.message)
            (some "$ref") [("ref", .str ref)] .error .reference], .ok false⟩
        else ⟨[], [], .error f⟩ := by
  refine ⟨fun l v => stands_of_resolve, fun f => isReference_eq_false_iff, ?_⟩
  intro e J s ref f hd hbase href h
  subst hd hbase href
  exact Logic.outcome_reference_error h

/-- A bracket that is not closed keeps a reference from being taken apart, and that is no complaint
about the reference. -/
theorem resolve_unclosed_bracket :
    ∃ d, make (.obj []) "" [] = .ok d ∧
      d.resolve (.str "http://[x#") { uri := d.baseUri } =
        .error (.badValue "Invalid IPv6 URL") ∧
      ¬ ∀ f, d.resolve (.str "http://[x#") { uri := d.baseUri } = .error f →
        f.isReference = true := by
  refine ⟨_, rfl, rfl, ?_⟩
  intro h
  exact absurd (h _ rfl) (by decide)

end Documents

end Conform
