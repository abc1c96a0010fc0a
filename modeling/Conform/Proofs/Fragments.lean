import Conform.Proofs.Resolution
import Conform.Proofs.Whereabouts

/-!
References inside a document. The address of a document is joined with the fragment, taken apart
and put together again before the document is looked up, so that what comes of it is the address
again, or not. If it is, a pointer written as a fragment leads to the node that it addresses in
the very document; if it is not, the fragment that stands for the whole document does not.
-/
namespace Conform

namespace Uri

/-- Addresses that a fragment does not change: the empty one, and those that can be split, if
references are not resolved against their scheme, or if what they are put together to is the
address itself or nothing. -/
def KeepsFragments (key : String) : Prop :=
  key = "" ∨ ∃ u, parse [] key.toList = .ok u ∧
    (isIn relativeSchemes u.scheme = false ∨ u.text = [] ∨ u.text = key.toList)

variable {base k f : List Char} {u : Uri}

theorem parse_nil (base : List Char) : parse base [] = .ok { scheme := base } := by
  unfold parse
  change (if isIn parameterSchemes base then _ else _) = _
  split <;> rfl

theorem parse_mark (hf : IsPlain f) (base : List Char) :
    parse base ('#' :: f) = .ok { scheme := base, fragment := f } := by
  have h := parse_append hf List.not_mem_nil base
  rw [parse_nil] at h
  exact h

theorem fragment_of_parse (hk : '#' ∉ k) (h : parse base k = .ok u) : u.fragment = [] := by
  have hbody : ∀ c ∈ body base k, (c == '#') = false := by
    intro c hc
    rw [beq_eq_false_iff_ne]
    rintro rfl
    exact hk (mem_of_mem_body hc)
  have hsplit {v : Uri} (hv : split base k = .ok v) : v.fragment = [] := by
    obtain ⟨_, _, hv⟩ := Answer.do_ok.mp hv
    obtain ⟨_, _, hv⟩ := Answer.do_ok.mp hv
    obtain rfl := Except.ok.inj hv
    change (upTo (· == '#') (body base k)).2.drop 1 = []
    rw [upTo_of_forall_not hbody]
    rfl
  obtain ⟨v, hv, h⟩ := Answer.do_ok.mp h
  have hnone := hsplit hv
  split at h
  · obtain rfl := Except.ok.inj h
    exact hnone
  · obtain rfl := Except.ok.inj h
    exact hnone

theorem text_fragment (hu : u.fragment = []) (f : List Char) :
    ({ u with fragment := f } : Uri).text = u.text ++ after '#' f := by
  have hnone : after '#' u.fragment = [] := by
    rw [hu]
    rfl
  simp only [text, hnone, List.append_nil]

theorem isIn_authoritySchemes {scheme : List Char} (h : isIn relativeSchemes scheme) :
    isIn authoritySchemes scheme := by
  have hall : ∀ s ∈ relativeSchemes, authoritySchemes.contains s := by decide
  exact hall _ (List.contains_iff_mem.mp h)

theorem resolveAgainst_fragment (b : Uri) (f : List Char) :
    resolveAgainst b { scheme := b.scheme, fragment := f } =
      if isIn relativeSchemes b.scheme then some { b with fragment := f } else none := by
  unfold resolveAgainst
  cases h : isIn relativeSchemes b.scheme with
  | false => simp
  | true => simp [isIn_authoritySchemes h]

theorem join_fragment {key f : String} (hf : IsPlain f.toList) (hkey : key ≠ "")
    (hu : parse [] key.toList = .ok u) : join key ("#" ++ f) = .ok
      (if isIn relativeSchemes u.scheme then
        String.ofList ({ u with fragment := f.toList } : Uri).text
      else "#" ++ f) := by
  have htext : ("#" ++ f).toList = '#' :: f.toList := String.toList_append
  have hkeyEmpty : key.isEmpty = false := by simpa using hkey
  have hrefEmpty : ("#" ++ f).isEmpty = false := by simp
  unfold join
  rw [hkeyEmpty, hrefEmpty]
  simp only [Bool.false_eq_true, if_false, hu, htext, parse_mark hf, resolveAgainst_fragment, bind,
    Except.bind]
  split
  · rename_i h
    split at h
    · rename_i hrelative
      rw [if_pos hrelative]
      obtain rfl := Option.some.inj h
      rfl
    · cases h
  · rename_i h
    split at h
    · cases h
    · rename_i hrelative
      rw [if_neg hrelative]
      rfl

/-- The fragment of a text that goes on with one is taken off, and the rest put together. -/
theorem defragment_append {k f : List Char} (hf : IsPlain f) (hk : '#' ∉ k)
    (hu : parse [] k = .ok u) : defragment (String.ofList (k ++ '#' :: f)) =
      .ok (String.ofList u.text, String.ofList f) := by
  have hmark : (k ++ '#' :: f).contains '#' = true := by simp
  have hnone : { u with fragment := [] } = u := by rw [← fragment_of_parse hk hu]
  unfold defragment
  rw [String.toList_ofList, if_pos hmark, parse_append hf hk, hu]
  simp only [Except.map, bind, Except.bind, hnone]
  rfl

/-- A text that is put together to itself is left when its fragment is taken off. -/
theorem defragment_after {k f : List Char} (hf : IsPlain f) (hk : '#' ∉ k)
    (hu : parse [] k = .ok u) (htext : u.text = k) :
    defragment (String.ofList (k ++ after '#' f)) = .ok (String.ofList k, String.ofList f) := by
  cases f with
  | nil =>
    have hnone : '#' ∉ (String.ofList k).toList := by rwa [String.toList_ofList]
    have hbare : k ++ after '#' [] = k := List.append_nil k
    rw [hbare, defragment_of_not_mem hnone]
  | cons c f =>
    have hmarked : k ++ after '#' (c :: f) = k ++ '#' :: c :: f := rfl
    rw [hmarked, defragment_append hf hk hu, htext]

theorem defragment_mark {f : String} (hf : IsPlain f.toList) :
    defragment ("#" ++ f) = .ok ("", f) := by
  have htext : "#" ++ f = String.ofList ([] ++ '#' :: f.toList) := by
    rw [List.nil_append, ← String.toList_inj, String.toList_ofList]
    exact String.toList_append
  rw [htext, defragment_append hf List.not_mem_nil (parse_nil []), String.ofList_toList]
  rfl

end Uri

namespace Documents

variable {key : String} {f : String} {d : Documents}

theorem destination_eq {ref target uri fragment : String} (hjoin : Uri.join key ref = .ok target)
    (hsplit : Uri.defragment target = .ok (uri, fragment)) :
    destination key ref = .ok (if uri.isEmpty then key else uri, fragment) := by
  unfold destination
  rw [hjoin]
  simp only [bind, Except.bind, hsplit, address_of_not_mem (Uri.mark_not_mem_of_defragment hsplit)]
  split
  · rfl
  · rfl

/-- The reference of a fragment is to the document in which it stands. -/
theorem destination_fragment (h : Uri.KeepsFragments key) (hkey : '#' ∉ key.toList)
    (hf : Uri.IsPlain f.toList) : destination key ("#" ++ f) = .ok (key, f) := by
  by_cases hempty : key = ""
  · subst hempty
    have hjoin : Uri.join "" ("#" ++ f) = .ok ("#" ++ f) := rfl
    exact destination_eq hjoin (Uri.defragment_mark hf)
  · rcases h with h | ⟨u, hu, h⟩
    · exact absurd h hempty
    · have hjoin := Uri.join_fragment hf hempty hu
      have hnone := Uri.fragment_of_parse hkey hu
      by_cases hrelative : Uri.isIn Uri.relativeSchemes u.scheme
      · rw [if_pos hrelative, Uri.text_fragment hnone] at hjoin
        rcases h with h | h | h
        · rw [hrelative] at h
          cases h
        · rw [h] at hjoin
          have hsplit := Uri.defragment_after hf List.not_mem_nil (Uri.parse_nil []) rfl
          rw [String.ofList_toList] at hsplit
          exact destination_eq hjoin hsplit
        · rw [h] at hjoin
          have hsplit := Uri.defragment_after hf hkey hu h
          rw [String.ofList_toList, String.ofList_toList] at hsplit
          rw [destination_eq hjoin hsplit, if_neg (by simpa using hempty)]
      · rw [if_neg hrelative] at hjoin
        exact destination_eq hjoin (Uri.defragment_mark hf)

theorem keepsFragments_of_destination {fragment : String} (hkey : '#' ∉ key.toList)
    (h : destination key "#" = .ok (key, fragment)) : Uri.KeepsFragments key := by
  by_cases hempty : key = ""
  · exact .inl hempty
  · right
    obtain ⟨target, htarget, _⟩ := Answer.do_ok.mp h
    have hnonempty : key.isEmpty = false := by simpa using hempty
    obtain ⟨u, hu⟩ : ∃ u, Uri.parse [] key.toList = .ok u := by
      unfold Uri.join at htarget
      rw [if_neg (by simp [hnonempty]), if_neg (by decide)] at htarget
      obtain ⟨u, hu, _⟩ := Answer.do_ok.mp htarget
      exact ⟨u, hu⟩
    refine ⟨u, hu, ?_⟩
    have hplain : Uri.IsPlain "".toList := fun c hc => by simp at hc
    have hjoin := Uri.join_fragment hplain hempty hu
    cases hrelative : Uri.isIn Uri.relativeSchemes u.scheme with
    | false => exact .inl rfl
    | true =>
      right
      have hbare : ({ u with fragment := [] } : Uri) = u := by rw [← Uri.fragment_of_parse hkey hu]
      have hclean : '#' ∉ (String.ofList u.text).toList := by
        have hclean := Uri.mark_not_mem_text List.not_mem_nil hu
        rwa [hbare, ← String.toList_ofList (l := u.text)] at hclean
      rw [if_pos hrelative, String.toList_empty, hbare] at hjoin
      have hdest := destination_eq hjoin (Uri.defragment_of_not_mem hclean)
      have hkeys : (if (String.ofList u.text).isEmpty then key else String.ofList u.text) = key :=
        (Prod.mk.inj (Except.ok.inj (hdest.symm.trans h))).1
      split at hkeys
      · rename_i hnothing
        left
        simpa using hnothing
      · right
        rw [← hkeys, String.toList_ofList]

theorem mark_not_mem_address {uri : String} (h : address uri = .ok key) : '#' ∉ key.toList := by
  obtain ⟨⟨_, fragment⟩, hsplit, rfl⟩ := Answer.map_ok.mp h
  exact Uri.mark_not_mem_of_defragment hsplit

/-- The address of every document is a text without a fragment. -/
theorem mark_not_mem_storeAll {store entries entries' : Members}
    (h : storeAll store entries = .ok entries') (hentries : ∀ m ∈ entries, '#' ∉ m.1.toList) :
    ∀ m ∈ entries', '#' ∉ m.1.toList := by
  induction store generalizing entries with
  | nil =>
    obtain rfl := Except.ok.inj h
    exact hentries
  | cons n store ih =>
    obtain ⟨key, hkey, h⟩ := Answer.do_ok.mp h
    apply ih h
    intro m hm
    rcases Members.mem_put hm with rfl | hm
    · exact mark_not_mem_address hkey
    · exact hentries m hm

theorem mark_not_mem_of_make {root : Value} {baseUri : String} {store : Members}
    (h : make root baseUri store = .ok d) {document : Value}
    (hd : d.entries.get? key = some document) : '#' ∉ key.toList := by
  obtain ⟨entries, hentries, h⟩ := Answer.do_ok.mp h
  obtain ⟨base, hbase, h⟩ := Answer.do_ok.mp h
  obtain rfl := Except.ok.inj h
  rcases Members.mem_put (Value.mem_of_get? hd) with hm | hm
  · obtain ⟨rfl, _⟩ := Prod.mk.inj hm
    exact mark_not_mem_address hbase
  · exact mark_not_mem_storeAll hentries (by simp) _ hm

/-- A pointer is written as a fragment so that it is read back. -/
theorem fragmentPointer_percentEncoded (p : Pointer) :
    fragmentPointer (Uri.percentEncoded p.text) = .ok p := by
  unfold fragmentPointer
  rw [Uri.percentDecoded_percentEncoded, Pointer.parse_text]

theorem isPlain_percentEncoded (s : String) : Uri.IsPlain (Uri.percentEncoded s).toList := by
  intro c hc
  rw [Uri.percentEncoded, String.toList_ofList] at hc
  exact Uri.mem_percentEncodedChars hc

/-- Fragments lead inside the document in which they stand, each to the node that its pointer
addresses, exactly if the address of the document keeps fragments. -/
theorem fragment_resolves_iff {root : Value} {baseUri : String} {store : Members}
    (hmake : make root baseUri store = .ok d) {document : Value}
    (hd : d.entries.get? key = some document) :
    (∀ (p q : Pointer) (v : Value), p.resolve document = .ok v →
      d.resolve (.str ("#" ++ Uri.percentEncoded p.text)) ⟨key, q⟩ = .ok (⟨key, p⟩, v)) ↔
      Uri.KeepsFragments key := by
  have hkey := mark_not_mem_of_make hmake hd
  constructor
  · intro h
    -- the pointer to the whole document is enough
    have hroot := h .root .root document rfl
    have hmark : "#" ++ Uri.percentEncoded Pointer.root.text = "#" := rfl
    rw [hmark, resolve_eq] at hroot
    obtain ⟨⟨found, fragment⟩, hdest, hroot⟩ := Answer.bind_ok.mp hroot
    dsimp only at hroot
    split at hroot
    · cases hroot
    · obtain ⟨p, _, hroot⟩ := Answer.do_ok.mp hroot
      obtain ⟨v, _, hroot⟩ := Answer.do_ok.mp hroot
      obtain ⟨hlocation, _⟩ := Prod.mk.inj (Except.ok.inj hroot)
      obtain rfl : found = key := congrArg Location.uri hlocation
      exact keepsFragments_of_destination hkey hdest
  · intro h p q v hv
    rw [resolve_eq, destination_fragment h hkey (isPlain_percentEncoded _)]
    simp only [Except.bind, hd, fragmentPointer_percentEncoded, bind, hv]
    rfl

/-- An address with a path keeps fragments, and so does a space in a member name. -/
theorem fragment_resolves_spaced :
    let document : Value := .obj [("a b", .int 1)]
    ∃ d, make document "http://x/y" [] = .ok d ∧ d.entries.get? "http://x/y" = some document ∧
      Uri.KeepsFragments "http://x/y" ∧
      d.resolve (.str "#/a%20b") ⟨"http://x/y", .root⟩ =
        .ok (⟨"http://x/y", ⟨["a b"]⟩⟩, .int 1) := by
  intro document
  have hkeeps : Uri.KeepsFragments "http://x/y" := .inr ⟨_, rfl, .inr (.inr rfl)⟩
  have hmake : make document "http://x/y" [] = .ok ⟨"http://x/y", [("http://x/y", document)]⟩ := rfl
  refine ⟨_, hmake, rfl, hkeeps, ?_⟩
  exact (fragment_resolves_iff hmake rfl).mpr hkeeps ⟨["a b"]⟩ .root (.int 1) rfl

/-- A scheme in capitals is not kept: the root is looked up under another address, where nothing
is registered. -/
theorem fragment_unresolved_capitals :
    let document : Value := .obj [("a", .int 1)]
    let p : Pointer := ⟨["a"]⟩
    ∃ d, make document "HTTP://x/y" [] = .ok d ∧ d.entries.get? d.baseUri = some document ∧
      p.resolve document = .ok (.int 1) ∧
      d.resolve (.str ("#" ++ Uri.percentEncoded p.text)) ⟨d.baseUri, .root⟩ =
        .error (.noDocument "http://x/y") :=
  ⟨_, rfl, rfl, rfl, rfl⟩

end Documents

end Conform
