import Conform.Proofs.Answer
import Conform.Proofs.Escaping
import Conform.Uri.Join
import Mathlib.Data.List.TakeWhile

/-!
Texts with a fragment. A fragment put behind a text without one changes nothing about how the text
is split; and what is left of a split text without its fragment is a text without a mark again.
-/
namespace Conform.Uri

section UpTo

variable {p : Char → Bool}

/-- What comes behind a stop is not looked at. -/
theorem upTo_append_stop {m : Char} (hm : p m) (cs rest : List Char) :
    upTo p (cs ++ m :: rest) = ((upTo p cs).1, (upTo p cs).2 ++ m :: rest) := by
  unfold upTo
  induction cs with
  | nil => simp [hm]
  | cons c cs ih =>
    cases hc : p c with
    | true => simp [hc]
    | false => simpa [hc] using ih

theorem upTo_of_forall_not {cs : List Char} (h : ∀ c ∈ cs, p c = false) : upTo p cs = (cs, []) := by
  unfold upTo
  have htake : cs.takeWhile (!p ·) = cs := by
    apply List.takeWhile_eq_self_iff.mpr
    intro c hc
    simp [h c hc]
  have hdrop : cs.dropWhile (!p ·) = [] := by
    apply List.dropWhile_eq_nil_iff.mpr
    intro c hc
    simp [h c hc]
  rw [htake, hdrop]

theorem mem_upTo_fst {c : Char} {cs : List Char} (h : c ∈ (upTo p cs).1) :
    c ∈ cs ∧ p c = false := by
  have hp := List.mem_takeWhile_imp h
  exact ⟨(List.takeWhile_sublist _).subset h, by simpa using hp⟩

theorem mem_of_mem_upTo_snd {c : Char} {cs : List Char} (h : c ∈ (upTo p cs).2) : c ∈ cs :=
  (List.dropWhile_sublist _).subset h

end UpTo

/-- Text that a fragment may consist of. -/
def IsPlain (f : List Char) : Prop := ∀ c ∈ f, isUnreserved c ∨ c = '%'

theorem IsPlain.not_mem {f : List Char} (h : IsPlain f) {c : Char} (hc : isUnreserved c = false)
    (hp : c ≠ '%') : c ∉ f := by
  intro hmem
  rcases h c hmem with hu | rfl
  · rw [hc] at hu
    cases hu
  · exact hp rfl

variable {f k base : List Char}

theorem cleaned_append (hf : IsPlain f) (k : List Char) :
    cleaned (k ++ '#' :: f) = cleaned k ++ '#' :: f := by
  have hdrop : (k ++ '#' :: f).dropWhile (fun c => c.toNat ≤ 32) =
      k.dropWhile (fun c => c.toNat ≤ 32) ++ '#' :: f := by
    induction k with
    | nil => rfl
    | cons c k ih => by_cases hc : c.toNat ≤ 32 <;> simp_all
  have hfilter :
      ('#' :: f).filter (fun c => !(c == '\t' || c == '\r' || c == '\n')) = '#' :: f := by
    apply List.filter_eq_self.mpr
    intro c hc
    rcases List.mem_cons.mp hc with rfl | hc
    · decide
    · have ht : c ≠ '\t' := by
        rintro rfl
        exact hf.not_mem (by decide) (by decide) hc
      have hr : c ≠ '\r' := by
        rintro rfl
        exact hf.not_mem (by decide) (by decide) hc
      have hn : c ≠ '\n' := by
        rintro rfl
        exact hf.not_mem (by decide) (by decide) hc
      simp [ht, hr, hn]
  unfold cleaned
  rw [hdrop, List.filter_append, hfilter]

theorem splitScheme_of_not_mem {cs : List Char} (h : ':' ∉ cs) (base : List Char) :
    splitScheme base cs = (base, cs) := by
  have hall : ∀ c ∈ cs, (c == ':') = false := by
    intro c hc
    rw [beq_eq_false_iff_ne]
    rintro rfl
    exact h hc
  unfold splitScheme
  rw [upTo_of_forall_not hall]
  cases cs <;> rfl

theorem splitScheme_append (hf : IsPlain f) (base cs : List Char) :
    splitScheme base (cs ++ '#' :: f) =
      ((splitScheme base cs).1, (splitScheme base cs).2 ++ '#' :: f) := by
  by_cases hcolon : ':' ∈ cs
  · -- the scheme, if there is one, ends before the fragment
    obtain ⟨pre, post, rfl⟩ := List.append_of_mem hcolon
    rw [List.append_assoc, List.cons_append]
    unfold splitScheme
    rw [upTo_append_stop rfl, upTo_append_stop rfl]
    rcases upTo (· == ':') pre with ⟨_ | ⟨c, scheme⟩, _ | ⟨m, rest⟩⟩
    · simp
    · simp
    · dsimp only [List.nil_append]
      split <;> simp
    · dsimp only [List.cons_append]
      split <;> simp
  · have hnone : ':' ∉ cs ++ '#' :: f := by
      have hplain : ':' ∉ f := hf.not_mem (by decide) (by decide)
      simp [hcolon, hplain]
    rw [splitScheme_of_not_mem hcolon, splitScheme_of_not_mem hnone]

theorem splitAuthority_append (cs f : List Char) : splitAuthority (cs ++ '#' :: f) =
    ((splitAuthority cs).1, (splitAuthority cs).2 ++ '#' :: f) := by
  unfold splitAuthority
  split
  · rename_i r h
    match cs, h with
    | [c], h => simp at h
    | a :: b :: cs, h =>
      obtain ⟨rfl, rfl, rfl⟩ : a = '/' ∧ b = '/' ∧ cs ++ '#' :: f = r := by simpa using h
      exact upTo_append_stop rfl cs f
  · rename_i h
    split
    · rename_i r
      exact absurd rfl (h (r ++ '#' :: f))
    · rfl

theorem mem_of_mem_cleaned {c : Char} {cs : List Char} (h : c ∈ cleaned cs) : c ∈ cs :=
  (List.dropWhile_sublist _).subset (List.mem_filter.mp h).1

theorem mem_of_mem_splitScheme {c : Char} {cs : List Char} (h : c ∈ (splitScheme base cs).2) :
    c ∈ cs := by
  unfold splitScheme at h
  split at h
  · rename_i hupTo
    split at h
    · apply mem_of_mem_upTo_snd (p := (· == ':'))
      rw [hupTo]
      exact List.mem_cons_of_mem _ h
    · exact h
  · exact h

theorem mem_of_mem_splitAuthority {c : Char} {cs : List Char} (h : c ∈ (splitAuthority cs).2) :
    c ∈ cs := by
  unfold splitAuthority at h
  split at h
  · exact List.mem_cons_of_mem _ (List.mem_cons_of_mem _ (mem_of_mem_upTo_snd h))
  · exact h

/-- What is left of a text behind its scheme and its authority. -/
def body (base cs : List Char) : List Char := (splitAuthority (splitScheme base (cleaned cs)).2).2

theorem mem_of_mem_body {c : Char} {cs : List Char} (h : c ∈ body base cs) : c ∈ cs :=
  mem_of_mem_cleaned (mem_of_mem_splitScheme (mem_of_mem_splitAuthority h))

/-- A fragment behind a text without one is split off it, and the rest is split as before. -/
theorem split_append (hf : IsPlain f) (hk : '#' ∉ k) (base : List Char) :
    split base (k ++ '#' :: f) = (split base k).map fun u => { u with fragment := f } := by
  have hbody : ∀ c ∈ body base k, (c == '#') = false := by
    intro c hc
    rw [beq_eq_false_iff_ne]
    rintro rfl
    exact hk (mem_of_mem_body hc)
  have hnone : upTo (· == '#') (body base k) = (body base k, []) := upTo_of_forall_not hbody
  have hmark : upTo (· == '#') (body base k ++ '#' :: f) = (body base k, '#' :: f) := by
    rw [upTo_append_stop rfl, hnone]
    rfl
  unfold body at hnone hmark
  unfold split
  rw [cleaned_append hf, splitScheme_append hf]
  dsimp only
  rw [splitAuthority_append]
  dsimp only
  rw [hnone, hmark]
  cases checkAuthority (splitAuthority (splitScheme base (cleaned k)).2).1 with
  | error g => rfl
  | ok _ =>
    cases checkHidden (splitAuthority (splitScheme base (cleaned k)).2).1 with
    | error g => rfl
    | ok _ => rfl

theorem parse_append (hf : IsPlain f) (hk : '#' ∉ k) (base : List Char) :
    parse base (k ++ '#' :: f) = (parse base k).map fun u => { u with fragment := f } := by
  unfold parse
  rw [split_append hf hk]
  cases split base k with
  | error g => rfl
  | ok u =>
    cases h : isIn parameterSchemes u.scheme <;>
      simp [h, Except.map, bind, Except.bind, pure, Except.pure]

/-- A text consists of its parts and the marks between them. -/
theorem mem_text {u : Uri} {c : Char} (hf : u.fragment = []) (h : c ∈ u.text) :
    c ∈ u.scheme ∨ c ∈ u.authority ∨ c ∈ u.path ∨ c ∈ u.parameters ∨ c ∈ u.query ∨
      c ∈ [':', '/', ';', '?'] := by
  have hpart {mark : Char} {part : List Char} (h : c ∈ after mark part) : c = mark ∨ c ∈ part := by
    unfold after at h
    split at h
    · simp at h
    · exact List.mem_cons.mp h
  have hnone : after '#' u.fragment = [] := by
    rw [hf]
    rfl
  unfold text at h
  rw [hnone] at h
  grind

theorem toLower_ne_mark {c : Char} (h : isSchemeChar c) : c.toLower ≠ '#' := by
  intro hl
  unfold Char.toLower at hl
  split at hl
  · -- a capital becomes a letter
    rename_i hcapital
    have hvalue := congrArg (fun c => c.val.toNat) hl
    have hlow := UInt32.le_iff_toNat_le.mp hcapital.1
    have hhigh := UInt32.le_iff_toNat_le.mp hcapital.2
    simp at hvalue hlow hhigh
    omega
  · rw [hl] at h
    revert h
    decide

theorem mark_not_mem_splitScheme {cs : List Char} (hbase : '#' ∉ base) :
    '#' ∉ (splitScheme base cs).1 := by
  unfold splitScheme
  split
  · split
    · rename_i h
      obtain ⟨hc, hall⟩ := Bool.and_eq_true_iff.mp h
      intro hmem
      obtain ⟨x, hx, hlower⟩ := List.mem_map.mp hmem
      rcases List.mem_cons.mp hx with rfl | hx
      · exact toLower_ne_mark (by simp [isSchemeChar, Char.isAlphanum, hc]) hlower
      · exact toLower_ne_mark (List.all_eq_true.mp hall x hx) hlower
    · exact hbase
  · exact hbase

theorem mark_not_mem_split {cs : List Char} {u : Uri} (hbase : '#' ∉ base)
    (h : split base cs = .ok u) :
    '#' ∉ u.scheme ∧ '#' ∉ u.authority ∧ '#' ∉ u.path ∧ u.parameters = [] ∧ '#' ∉ u.query := by
  obtain ⟨_, _, h⟩ := Answer.do_ok.mp h
  obtain ⟨_, _, h⟩ := Answer.do_ok.mp h
  obtain rfl := Except.ok.inj h
  have hfront {c : Char} (hc : c ∈ (upTo (· == '#') (body base cs)).1) : c ≠ '#' := by
    have := (mem_upTo_fst hc).2
    rintro rfl
    cases this
  refine ⟨mark_not_mem_splitScheme hbase, ?_, ?_, rfl, ?_⟩
  · intro hmem
    change '#' ∈ (splitAuthority (splitScheme base (cleaned cs)).2).1 at hmem
    unfold splitAuthority at hmem
    split at hmem
    · cases (mem_upTo_fst hmem).2
    · simp at hmem
  · intro hmem
    exact hfront (mem_upTo_fst hmem).1 rfl
  · intro hmem
    exact hfront (mem_of_mem_upTo_snd (List.mem_of_mem_drop hmem)) rfl

theorem mem_of_mem_splitParameters {c : Char} {path : List Char}
    (h : c ∈ (splitParameters path).1 ∨ c ∈ (splitParameters path).2) : c ∈ path := by
  have hlast {c : Char} (hc : c ∈ (path.reverse.takeWhile (· != '/')).reverse) : c ∈ path :=
    List.mem_reverse.mp ((List.takeWhile_sublist _).subset (List.mem_reverse.mp hc))
  unfold splitParameters at h
  rcases h with h | h
  · rcases List.mem_append.mp h with h | h
    · exact List.mem_of_mem_take h
    · exact hlast (mem_upTo_fst h).1
  · exact hlast (mem_of_mem_upTo_snd (List.mem_of_mem_drop h))

/-- What is left of a text without its fragment holds no mark of one. -/
theorem mark_not_mem_text {cs : List Char} {u : Uri} (hbase : '#' ∉ base)
    (h : parse base cs = .ok u) : '#' ∉ ({ u with fragment := [] } : Uri).text := by
  obtain ⟨v, hv, h⟩ := Answer.do_ok.mp h
  obtain ⟨hscheme, hauthority, hpath, hparameters, hquery⟩ := mark_not_mem_split hbase hv
  have hparts : '#' ∉ u.scheme ∧ '#' ∉ u.authority ∧ '#' ∉ u.path ∧ '#' ∉ u.parameters ∧
      '#' ∉ u.query := by
    split at h
    · obtain rfl := Except.ok.inj h
      refine ⟨hscheme, hauthority, ?_, ?_, hquery⟩
      · exact fun hmem => hpath (mem_of_mem_splitParameters (.inl hmem))
      · exact fun hmem => hpath (mem_of_mem_splitParameters (.inr hmem))
    · obtain rfl := Except.ok.inj h
      rw [hparameters]
      simp [hscheme, hauthority, hpath, hquery]
  intro hmem
  rcases mem_text rfl hmem with h | h | h | h | h | h
  · exact hparts.1 h
  · exact hparts.2.1 h
  · exact hparts.2.2.1 h
  · exact hparts.2.2.2.1 h
  · exact hparts.2.2.2.2 h
  · simp at h

theorem defragment_of_not_mem {s : String} (h : '#' ∉ s.toList) : defragment s = .ok (s, "") := by
  have hcontains : s.toList.contains '#' = false := by simpa using h
  unfold defragment
  rw [hcontains]
  rfl

/-- A text whose fragment was taken off has none to take off. -/
theorem mark_not_mem_of_defragment {s uri fragment : String}
    (h : defragment s = .ok (uri, fragment)) : '#' ∉ uri.toList := by
  unfold defragment at h
  split at h
  · obtain ⟨u, hu, h⟩ := Answer.do_ok.mp h
    obtain ⟨rfl, _⟩ := Prod.mk.inj (Except.ok.inj h)
    rw [String.toList_ofList]
    exact mark_not_mem_text List.not_mem_nil hu
  · rename_i hcontains
    obtain ⟨rfl, _⟩ := Prod.mk.inj (Except.ok.inj h)
    simpa using hcontains

end Conform.Uri
