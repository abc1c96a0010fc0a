import Conform.Proofs.Answer
import Conform.Proofs.Escaping

/-!
Pointers and their texts. A text is spelled as that of a pointer if it is empty or begins with a
slash, and each of its tildes has a nought or a one behind it. Such a text is read as the one
pointer that is written so, and any other text is refused; so pointers are as good as the texts that
are spelled as theirs.
-/
namespace Conform

namespace Text

/-- Every occurrence of a character replaced by some others. -/
def replaceChar (old : Char) (new cs : List Char) : List Char :=
  cs.flatMap fun c => if c = old then new else [c]

/-- Every occurrence of two characters in a row replaced by one, from left to right. -/
def replacePair (a b new : Char) : List Char → List Char
  | [] => []
  | [c] => [c]
  | c :: d :: r =>
    if c = a ∧ d = b then new :: replacePair a b new r else c :: replacePair a b new (d :: r)

theorem replacePair_cons_of_ne {a b new c : Char} (h : c ≠ a) (r : List Char) :
    replacePair a b new (c :: r) = c :: replacePair a b new r := by
  cases r with
  | nil => rfl
  | cons d r => rw [replacePair, if_neg fun hc => h hc.1]

theorem not_mem_of_mem_pieces {sep : Char} {cs piece : List Char} (h : piece ∈ pieces sep cs) :
    sep ∉ piece := by
  induction cs generalizing piece with
  | nil =>
    rw [List.mem_singleton.mp h]
    exact List.not_mem_nil
  | cons c cs ih =>
    by_cases hc : c = sep
    · rw [pieces, if_pos hc] at h
      rcases List.mem_cons.mp h with rfl | h
      · exact List.not_mem_nil
      · exact ih h
    · have hone {q : List Char} (hq : sep ∉ q) : sep ∉ c :: q :=
        List.not_mem_cons_of_ne_of_not_mem (Ne.symm hc) hq
      rw [pieces, if_neg hc] at h
      split at h
      · rename_i q qs hps
        rw [hps] at ih
        rcases List.mem_cons.mp h with rfl | h
        · exact hone (ih List.mem_cons_self)
        · exact ih (List.mem_cons_of_mem q h)
      · rw [List.mem_singleton.mp h]
        exact hone List.not_mem_nil

/-- A separator before every piece gives the text back, with one in front. -/
theorem flatMap_pieces (sep : Char) (cs : List Char) :
    (pieces sep cs).flatMap (sep :: ·) = sep :: cs := by
  induction cs with
  | nil => rfl
  | cons c cs ih =>
    by_cases hc : c = sep
    · rw [pieces, if_pos hc, List.flatMap_cons, ih, hc]
      rfl
    · rw [pieces, if_neg hc]
      -- the character goes to the first of the pieces behind it
      cases hps : pieces sep cs with
      | nil =>
        rw [hps] at ih
        cases ih
      | cons p ps =>
        rw [hps, List.flatMap_cons] at ih
        obtain ⟨_, hcs⟩ := List.cons.inj ih
        rw [List.flatMap_cons, ← hcs]
        rfl

end Text

namespace Pointer

/-- Each tilde has a nought or a one behind it. -/
def Escaped (cs : List Char) : Prop :=
  ∀ i, cs[i]? = some '~' → cs[i + 1]? = some '0' ∨ cs[i + 1]? = some '1'

variable {cs ds : List Char} {c : Char} {s : String} {p : Pointer} {f : Fault}

theorem escaped_nil : Escaped [] := by
  intro i h
  cases h

theorem escaped_cons :
    Escaped (c :: cs) ↔ (c = '~' → cs.head? = some '0' ∨ cs.head? = some '1') ∧ Escaped cs := by
  constructor
  · intro h
    refine ⟨?_, fun i hi => h (i + 1) hi⟩
    rintro rfl
    rw [List.head?_eq_getElem?]
    exact h 0 rfl
  · rintro ⟨hc, hcs⟩ i hi
    cases i with
    | zero =>
      have hnext := hc (Option.some.inj hi)
      rw [List.head?_eq_getElem?] at hnext
      exact hnext
    | succ i => exact hcs i hi

theorem escaped_cons_of_ne (hc : c ≠ '~') : Escaped (c :: cs) ↔ Escaped cs := by
  rw [escaped_cons]
  exact ⟨And.right, fun h => ⟨fun h => absurd h hc, h⟩⟩

/-- An escape does not reach over a slash. -/
theorem escaped_append_slash : Escaped (cs ++ '/' :: ds) ↔ Escaped cs ∧ Escaped ds := by
  induction cs with
  | nil =>
    rw [List.nil_append, escaped_cons_of_ne (by decide)]
    exact ⟨fun h => ⟨escaped_nil, h⟩, And.right⟩
  | cons c cs ih =>
    rw [List.cons_append, escaped_cons, escaped_cons, ih, and_assoc]
    refine and_congr_left fun _ => imp_congr_right fun _ => ?_
    cases cs with
    | nil => simp
    | cons d cs => rfl

theorem escaped_flatMap_slash {ps : List (List Char)} :
    Escaped (ps.flatMap ('/' :: ·)) ↔ ∀ piece ∈ ps, Escaped piece := by
  induction ps with
  | nil => simp [escaped_nil]
  | cons piece ps ih =>
    rw [List.forall_mem_cons, ← ih, List.flatMap_cons, List.cons_append,
      escaped_cons_of_ne (by decide)]
    cases ps with
    | nil => simp [escaped_nil]
    | cons q ps =>
      rw [List.flatMap_cons, List.cons_append, escaped_append_slash,
        escaped_cons_of_ne (c := '/') (by decide)]

/-- Escaping is replacing the tildes and then the slashes. -/
theorem escape_eq_replace (cs : List Char) :
    escape cs = Text.replaceChar '/' ['~', '1'] (Text.replaceChar '~' ['~', '0'] cs) := by
  induction cs with
  | nil => rfl
  | cons c cs ih =>
    have hcons : escape (c :: cs) = escapeChar c ++ escape cs := List.flatMap_cons
    have hreplace : Text.replaceChar '~' ['~', '0'] (c :: cs) =
        (if c = '~' then ['~', '0'] else [c]) ++ Text.replaceChar '~' ['~', '0'] cs :=
      List.flatMap_cons
    rw [hcons, hreplace, Text.replaceChar, List.flatMap_append, ih, escapeChar]
    congr 1
    by_cases htilde : c = '~'
    · simp [htilde]
    · simp [htilde]

/-- What the escapes of a text stand for: those of slashes are replaced first, then those of
tildes. -/
def replaced (cs : List Char) : List Char :=
  Text.replacePair '~' '0' '~' (Text.replacePair '~' '1' '/' cs)

theorem escaped_mark (hc : c = '0' ∨ c = '1') : Escaped ('~' :: c :: cs) ↔ Escaped cs := by
  have hne : c ≠ '~' := by rintro rfl; simp at hc
  rw [escaped_cons, escaped_cons_of_ne hne]
  exact ⟨And.right, fun h => ⟨fun _ => by simpa using hc, h⟩⟩

theorem replaced_nought : replaced ('~' :: '0' :: cs) = '~' :: replaced cs := by
  have hfirst : Text.replacePair '~' '1' '/' ('~' :: '0' :: cs) =
      '~' :: '0' :: Text.replacePair '~' '1' '/' cs := by
    rw [Text.replacePair, if_neg (by decide), Text.replacePair_cons_of_ne (by decide)]
  rw [replaced, hfirst, Text.replacePair, if_pos ⟨rfl, rfl⟩]
  rfl

theorem replaced_one : replaced ('~' :: '1' :: cs) = '/' :: replaced cs := by
  rw [replaced, Text.replacePair, if_pos ⟨rfl, rfl⟩, Text.replacePair_cons_of_ne (by decide)]
  rfl

theorem replaced_cons_of_ne (hc : c ≠ '~') : replaced (c :: cs) = c :: replaced cs := by
  rw [replaced, Text.replacePair_cons_of_ne hc, Text.replacePair_cons_of_ne hc]
  rfl

/-- What is read of a text, with one character more in front. -/
theorem map_cons_eq_some {o : Option (List Char)} {P : Prop} {rest : List Char}
    (h : ∀ ds, o = some ds ↔ P ∧ ds = rest) :
    o.map (c :: ·) = some ds ↔ P ∧ ds = c :: rest := by
  simp only [Option.map_eq_some_iff, h]
  constructor
  · rintro ⟨_, ⟨hP, rfl⟩, rfl⟩
    exact ⟨hP, rfl⟩
  · rintro ⟨hP, rfl⟩
    exact ⟨_, ⟨hP, rfl⟩, rfl⟩

/-- Exactly what is escaped is read, as what its escapes stand for. -/
theorem unescape_eq_some : unescape cs = some ds ↔ Escaped cs ∧ ds = replaced cs := by
  -- the cases are those of the reader: an escape of either kind, or one character
  fun_induction unescape cs generalizing ds with
  | case1 => simp [escaped_nil, replaced, Text.replacePair, eq_comm]
  | case2 r ih =>
    rw [escaped_mark (.inl rfl), replaced_nought]
    exact map_cons_eq_some fun _ => ih
  | case3 r ih =>
    rw [escaped_mark (.inr rfl), replaced_one]
    exact map_cons_eq_some fun _ => ih
  | case4 r hnought hone =>
    refine ⟨nofun, fun h => ?_⟩
    -- a tilde that begins neither escape
    have hnext := (escaped_cons.mp h.1).1 rfl
    cases r with
    | nil => simp at hnext
    | cons d r =>
      rcases hnext with hd | hd
      · obtain rfl := Option.some.inj hd
        exact (hnought r rfl rfl).elim
      · obtain rfl := Option.some.inj hd
        exact (hone r rfl rfl).elim
  | case5 c r _ _ hc ih =>
    rw [escaped_cons_of_ne hc, replaced_cons_of_ne hc]
    exact map_cons_eq_some fun _ => ih

theorem unescape_eq_none : unescape cs = none ↔ ¬ Escaped cs := by
  rw [Option.eq_none_iff_forall_ne_some]
  simp [unescape_eq_some]

/-- What is read of a text without slashes is written as it was. -/
theorem escape_of_unescape (hslash : '/' ∉ cs) (h : unescape cs = some ds) : escape ds = cs := by
  fun_induction unescape cs generalizing ds with
  | case1 =>
    obtain rfl := Option.some.inj h
    rfl
  | case2 r ih | case3 r ih =>
    obtain ⟨ts, hts, rfl⟩ := Option.map_eq_some_iff.mp h
    have hrest : '/' ∉ r := fun hr => hslash (by simp [hr])
    rw [escape, List.flatMap_cons, ← ih hrest hts]
    rfl
  | case4 => cases h
  | case5 c r _ _ hc ih =>
    obtain ⟨ts, hts, rfl⟩ := Option.map_eq_some_iff.mp h
    obtain ⟨hne, hrest⟩ := List.ne_and_not_mem_of_not_mem_cons hslash
    have hcons : escape (c :: ts) = escapeChar c ++ escape ts := List.flatMap_cons
    rw [hcons, escapeChar, if_neg hc, if_neg hne.symm, ih hrest hts]
    rfl

theorem unescapeAll_ok {ps : List (List Char)} {ts : List String}
    (hslash : ∀ piece ∈ ps, '/' ∉ piece) (h : unescapeAll ps = .ok ts) :
    ps = ts.map fun t => escape t.toList := by
  induction ps generalizing ts with
  | nil =>
    obtain rfl := Except.ok.inj h
    rfl
  | cons piece ps ih =>
    obtain ⟨hpiece, hps⟩ := List.forall_mem_cons.mp hslash
    unfold unescapeAll at h
    split at h
    · cases h
    · rename_i cs hcs
      obtain ⟨us, hus, rfl⟩ := Answer.map_ok.mp h
      rw [List.map_cons, ← ih hps hus, String.toList_ofList, escape_of_unescape hpiece hcs]

/-- The first piece with a tilde that begins no escape is refused. -/
theorem unescapeAll_error {ps : List (List Char)} : unescapeAll ps = .error f ↔
    ∃ pre piece post, ps = pre ++ piece :: post ∧ (∀ q ∈ pre, Escaped q) ∧ ¬ Escaped piece ∧
      f = .pointerEscape (String.ofList piece) := by
  induction ps with
  | nil => simp [unescapeAll]
  | cons piece ps ih =>
    unfold unescapeAll
    split
    · rename_i hnone
      have hbad := unescape_eq_none.mp hnone
      constructor
      · intro h
        exact ⟨[], piece, ps, rfl, by simp, hbad, (Except.error.inj h).symm⟩
      · rintro ⟨pre, q, post, hps, hpre, -, rfl⟩
        cases pre with
        | nil =>
          obtain ⟨rfl, -⟩ := List.cons.inj hps
          rfl
        | cons r pre =>
          obtain ⟨rfl, -⟩ := List.cons.inj hps
          exact absurd (hpre piece List.mem_cons_self) hbad
    · rename_i cs hcs
      have hgood := (unescape_eq_some.mp hcs).1
      rw [Answer.map_error, ih]
      constructor
      · rintro ⟨pre, q, post, rfl, hpre, hq⟩
        exact ⟨piece :: pre, q, post, rfl, List.forall_mem_cons.mpr ⟨hgood, hpre⟩, hq⟩
      · rintro ⟨pre, q, post, hps, hpre, hq, hf⟩
        cases pre with
        | nil =>
          obtain ⟨rfl, -⟩ := List.cons.inj hps
          exact absurd hgood hq
        | cons r pre =>
          obtain ⟨rfl, rfl⟩ := List.cons.inj hps
          exact ⟨pre, q, post, rfl, (List.forall_mem_cons.mp hpre).2, hq, hf⟩

/-- A text as pointers are written. -/
structure Spelled (s : String) : Prop where
  start : s = "" ∨ s.toList.head? = some '/'
  escaped : Escaped s.toList

/-- The text of a pointer is that of its tokens, each escaped and behind a slash. -/
theorem toList_text (p : Pointer) :
    p.text.toList = (p.tokens.map fun t => escape t.toList).flatMap ('/' :: ·) := by
  rw [text, String.toList_ofList, textChars, List.flatMap_map]

theorem escaped_escape (cs : List Char) : Escaped (escape cs) :=
  (unescape_eq_some.mp (unescape_escape cs)).1

theorem spelled_text (p : Pointer) : Spelled p.text where
  start := by
    obtain ⟨tokens⟩ := p
    cases tokens with
    | nil => exact .inl rfl
    | cons t ts =>
      right
      rw [toList_text]
      rfl
  escaped := by
    rw [toList_text, escaped_flatMap_slash]
    intro piece hpiece
    obtain ⟨t, _, rfl⟩ := List.mem_map.mp hpiece
    exact escaped_escape t.toList

/-- A text is read as the pointer that is written so. -/
theorem text_of_parse (h : parse s = .ok p) : p.text = s := by
  apply String.toList_inj.mp
  unfold parse at h
  split at h
  · rename_i hs
    obtain rfl := Except.ok.inj h
    rw [hs]
    rfl
  · rename_i r hs
    obtain ⟨ts, hts, rfl⟩ := Answer.map_ok.mp h
    have hpieces := unescapeAll_ok (fun _ => Text.not_mem_of_mem_pieces) hts
    rw [toList_text, ← hpieces, Text.flatMap_pieces, hs]
  · cases h

/-- A text is refused because of how it begins, or because of the first token in which a tilde begins
no escape. -/
theorem parse_error (h : parse s = .error f) :
    (s ≠ "" ∧ s.toList.head? ≠ some '/' ∧ f = .pointerStart s) ∨
      ∃ token, ¬ Escaped s.toList ∧ f = .pointerEscape token := by
  unfold parse at h
  split at h
  · cases h
  · rename_i r hs
    obtain ⟨pre, piece, post, hps, _, hbad, rfl⟩ := unescapeAll_error.mp (Answer.map_error.mp h)
    refine .inr ⟨String.ofList piece, ?_, rfl⟩
    rw [hs, ← Text.flatMap_pieces, escaped_flatMap_slash]
    exact fun hall => hbad (hall piece (by simp [hps]))
  · rename_i hempty hslash
    refine .inl ⟨?_, ?_, (Except.error.inj h).symm⟩
    · rintro rfl
      exact hempty rfl
    · intro hhead
      obtain ⟨r, hr⟩ := List.head?_eq_some_iff.mp hhead
      exact hslash r hr

theorem spelled_of_parse (h : parse s = .ok p) : Spelled s :=
  text_of_parse h ▸ spelled_text p

/-- The texts that are read are those that are spelled as a pointer's. -/
theorem parse_isOk_iff : (∃ p, parse s = .ok p) ↔ Spelled s := by
  refine ⟨fun ⟨_, h⟩ => spelled_of_parse h, fun hs => ?_⟩
  cases h : parse s with
  | ok p => exact ⟨p, rfl⟩
  | error f =>
    rcases parse_error h with ⟨hne, hhead, -⟩ | ⟨_, hbad, -⟩
    · exact (hs.start.elim hne hhead).elim
    · exact (hbad hs.escaped).elim

/-- Pointers and texts that are spelled as theirs stand for one another. Whatever its tokens are, a
pointer is read back from its text. A text is read exactly if it is empty or begins with a slash, and
each tilde in it has a nought or a one behind it; it is then the text of the pointer that it is read
as, and any other text is refused as a bad value. So no two pointers have one text.

Tokens are written by replacing tildes and then slashes, and read by replacing first the escapes of
slashes and then those of tildes. -/
theorem text_encodes :
    (∀ tokens : List String, parse (text ⟨tokens⟩) = .ok ⟨tokens⟩) ∧
    (∀ s : String, (∃ p, parse s = .ok p) ↔
      (s = "" ∨ s.toList.head? = some '/') ∧ ∀ i, s.toList[i]? = some '~' →
        s.toList[i + 1]? = some '0' ∨ s.toList[i + 1]? = some '1') ∧
    (∀ (s : String) (p : Pointer), parse s = .ok p → p.text = s) ∧
    (∀ s : String, (¬ ∃ p, parse s = .ok p) →
      ∃ f, parse s = .error f ∧ f.label = "ValueError") ∧
    Function.Injective text ∧
    (∀ cs, escape cs =
      Text.replaceChar '/' ['~', '1'] (Text.replaceChar '~' ['~', '0'] cs)) ∧
    ∀ cs ds, unescape cs = some ds → ds =
      Text.replacePair '~' '0' '~' (Text.replacePair '~' '1' '/' cs) := by
  refine ⟨fun tokens => parse_text ⟨tokens⟩, ?_, fun s p => text_of_parse, ?_, text_injective,
    escape_eq_replace, fun cs ds h => (unescape_eq_some.mp h).2⟩
  · intro s
    rw [parse_isOk_iff]
    exact ⟨fun h => ⟨h.start, h.escaped⟩, fun h => ⟨h.1, h.2⟩⟩
  · intro s hs
    cases h : parse s with
    | ok p => exact absurd ⟨p, h⟩ hs
    | error f =>
      refine ⟨f, rfl, ?_⟩
      rcases parse_error h with ⟨-, -, rfl⟩ | ⟨_, -, rfl⟩
      · rfl
      · rfl

/-- The nought that ends the escape of a tilde begins no escape with what follows. -/
example : parse "/a~01" = .ok ⟨["a~1"]⟩ := rfl

end Pointer

end Conform
