import Conform.Format.Basic
import Conform.Proofs.LowerCase
import Conform.Proofs.PointerText
import Mathlib.Data.List.DropRight

/-!
The texts that the hand-written formats accept. Each of these formats has a grammar over whole
texts. What is accepted are the texts of the grammar, and some more: a search up to the end of a
line takes a line end behind what it looks for, and the Kelvin sign has a small k as its lower case.
-/
namespace Conform

namespace Text

theorem pieces_eq_splitOn (sep : Char) (cs : List Char) : pieces sep cs = cs.splitOn sep := by
  induction cs with
  | nil => rfl
  | cons c cs ih =>
    have hne : cs.splitOn sep ≠ [] := List.splitOn_ne_nil sep cs
    rw [pieces, ih, List.splitOn_cons_eq_if_modifyHead]
    by_cases hc : c = sep
    · rw [if_pos hc, if_pos (beq_iff_eq.mpr hc)]
    · rw [if_neg hc, if_neg (mt beq_iff_eq.mp hc)]
      obtain ⟨p, ps, hps⟩ := List.exists_cons_of_ne_nil hne
      rw [hps, List.modifyHead_cons]

/-- A text falls into the pieces that it is put together from, if none holds the separator. -/
theorem pieces_eq_iff {sep : Char} {cs : List Char} {ps : List (List Char)} (hps : ps ≠ []) :
    pieces sep cs = ps ↔ cs = [sep].intercalate ps ∧ ∀ p ∈ ps, sep ∉ p := by
  constructor
  · rintro rfl
    refine ⟨?_, fun p => not_mem_of_mem_pieces⟩
    rw [pieces_eq_splitOn, List.intercalate_splitOn]
  · rintro ⟨rfl, hsep⟩
    rw [pieces_eq_splitOn, List.splitOn_intercalate sep hsep hps]

theorem pieces_ne_nil (sep : Char) (cs : List Char) : pieces sep cs ≠ [] := by
  rw [pieces_eq_splitOn]
  exact List.splitOn_ne_nil sep cs

/-- A text that ends in the separator has an empty piece. -/
theorem nil_mem_pieces_concat (sep : Char) (cs : List Char) : [] ∈ pieces sep (cs ++ [sep]) := by
  rw [pieces_eq_splitOn, List.splitOn_append_cons_self, List.splitOn_nil]
  exact List.mem_append_right _ List.mem_cons_self

end Text

namespace Format

open Text (kelvinSign kelvinAsK pieces)

/-! ### The grammars -/

/-- A hash sign with three or six hexadecimal digits. -/
def HexColor (cs : List Char) : Prop :=
  ∃ digits, cs = '#' :: digits ∧ (digits.length = 3 ∨ digits.length = 6) ∧
    ∀ d ∈ digits, Address.isHexDigit d

/-- The name of a color in letters of either case. -/
def ColorName (cs : List Char) : Prop := ∃ name ∈ colorNames, cs.map Char.toLower = name.toList

/-- Perhaps a plus sign, a digit, four characters or more of those that numbers are written in, and
a digit. -/
def PhoneNumber (cs : List Char) : Prop :=
  ∃ sign first middle last, cs = sign ++ first :: (middle ++ [last]) ∧
    (sign = [] ∨ sign = ['+']) ∧ first.isDigit ∧ last.isDigit ∧ 4 ≤ middle.length ∧
    ∀ c ∈ middle, c.isDigit ∨ c ∈ [' ', '(', ')', '.', '-']

/-- A side of an at sign. -/
def MailPart (cs : List Char) : Prop := cs ≠ [] ∧ ∀ c ∈ cs, c ≠ '@' ∧ Text.isBlank c = false

def MailAddress (cs : List Char) : Prop :=
  ∃ mailbox domain, cs = mailbox ++ '@' :: domain ∧ MailPart mailbox ∧ MailPart domain

def HostLabel (cs : List Char) : Prop :=
  cs ≠ [] ∧ cs.length ≤ 63 ∧ (∀ c ∈ cs, c.isAlphanum ∨ c = '-') ∧
    cs.head? ≠ some '-' ∧ cs.getLast? ≠ some '-'

/-- At most 255 characters: labels with points between them, and any number of points behind. -/
def HostName (Label : List Char → Prop) (cs : List Char) : Prop :=
  cs.length ≤ 255 ∧ ∃ labels n, labels ≠ [] ∧ (∀ l ∈ labels, Label l) ∧
    cs = ['.'].intercalate labels ++ List.replicate n '.'

/-- A text of the grammar, perhaps with a line end behind it. -/
def Ended (G : List Char → Prop) (cs : List Char) : Prop :=
  G cs ∨ ∃ body, cs = body ++ ['\n'] ∧ G body

/-- Whether the check of a format answers for every text, by whether it is one of the grammar. -/
def Decides (f : Format) (G : List Char → Prop) : Prop :=
  ∀ s : String, ∃ b : Bool, f.check (.str s) = .ok b ∧ (b = true ↔ G s.toList)

variable {cs : List Char} {s : String} {f : Format} {G H : List Char → Prop}

theorem Decides.iff (h : Decides f G) (s : String) : f.check (.str s) = .ok true ↔ G s.toList := by
  obtain ⟨b, hcheck, hb⟩ := h s
  rw [hcheck, ← hb, Except.ok.injEq]

/-! ### Line ends -/

theorem HexColor.lineEnd_not_mem (h : HexColor cs) : '\n' ∉ cs := by
  obtain ⟨digits, rfl, -, hdigits⟩ := h
  intro hmem
  have hmem' := List.mem_of_ne_of_mem (by decide) hmem
  exact absurd (hdigits '\n' hmem') (by decide)

theorem PhoneNumber.lineEnd_not_mem (h : PhoneNumber cs) : '\n' ∉ cs := by
  obtain ⟨sign, first, middle, last, rfl, hsign, hfirst, hlast, -, hmiddle⟩ := h
  intro hmem
  rcases List.mem_append.mp hmem with hmem | hmem
  · rcases hsign with rfl | rfl <;> exact absurd hmem (by decide)
  rcases List.mem_cons.mp hmem with rfl | hmem
  · exact absurd hfirst (by decide)
  rcases List.mem_append.mp hmem with hmem | hmem
  · exact absurd (hmiddle '\n' hmem) (by decide)
  · rw [← List.mem_singleton.mp hmem] at hlast
    exact absurd hlast (by decide)

theorem MailPart.lineEnd_not_mem (h : MailPart cs) : '\n' ∉ cs := by
  intro hmem
  exact absurd (h.2 '\n' hmem).2 (by decide)

theorem MailAddress.lineEnd_not_mem (h : MailAddress cs) : '\n' ∉ cs := by
  obtain ⟨mailbox, domain, rfl, hm, hd⟩ := h
  intro hmem
  rcases List.mem_append.mp hmem with hmem | hmem
  · exact hm.lineEnd_not_mem hmem
  · exact hd.lineEnd_not_mem (List.mem_of_ne_of_mem (by decide) hmem)

theorem HostLabel.lineEnd_not_mem (h : HostLabel cs) : '\n' ∉ cs := by
  intro hmem
  exact absurd (h.2.2.1 '\n' hmem) (by decide)

/-- One line end is taken off before a text is held against a grammar without line ends. -/
theorem withoutLineEnd_iff (hG : ∀ body, G body → '\n' ∉ body) (cs : List Char) :
    G (withoutLineEnd cs) ↔ Ended G cs := by
  by_cases hlast : cs.getLast? = some '\n'
  · have hcs : cs.dropLast ++ ['\n'] = cs := List.dropLast_append_getLast? '\n' hlast
    rw [withoutLineEnd, if_pos hlast]
    constructor
    · exact fun h => Or.inr ⟨cs.dropLast, hcs.symm, h⟩
    · rintro (h | ⟨body, rfl, h⟩)
      -- a text of the grammar does not end in a line end
      · exact absurd (List.mem_of_getLast? hlast) (hG cs h)
      · rw [List.dropLast_concat]
        exact h
  · rw [withoutLineEnd, if_neg hlast]
    constructor
    · exact Or.inl
    · rintro (h | ⟨body, rfl, h⟩)
      · exact h
      · exact absurd List.getLast?_concat hlast

/-! ### Colors -/

theorem isHexColor_iff (cs : List Char) : isHexColor cs ↔ Ended HexColor cs := by
  rw [← withoutLineEnd_iff fun body => HexColor.lineEnd_not_mem, isHexColor]
  split
  · rename_i digits hcs
    simp [HexColor, hcs]
  · rename_i hne
    constructor
    · intro h
      cases h
    · rintro ⟨digits, hcs, -⟩
      exact absurd hcs (hne digits)

/-- The names of colors are written in small letters. -/
theorem colorNames_isLower : ∀ name ∈ colorNames, ∀ c ∈ name.toList, c.isLower := by
  have hall : colorNames.all fun name => name.toList.all Char.isLower := by decide +kernel
  simpa only [List.all_eq_true] using hall

theorem colorNames_contains_lower_iff (s : String) :
    colorNames.contains (Text.lower s) ↔ ColorName (s.toList.map kelvinAsK) := by
  rw [List.contains_iff_mem]
  constructor
  · intro h
    refine ⟨Text.lower s, h, ?_⟩
    rw [← Text.lower_eq_iff (colorNames_isLower _ h), Text.lower, String.toList_ofList]
  · rintro ⟨name, hname, h⟩
    have hlower := (Text.lower_eq_iff (colorNames_isLower name hname) s.toList).mpr h
    rw [Text.lower, hlower, String.ofList_toList]
    exact hname

theorem decides_color :
    Decides .color fun cs => ColorName (cs.map kelvinAsK) ∨ Ended HexColor cs := by
  intro s
  refine ⟨isColor s, rfl, ?_⟩
  rw [isColor, Bool.or_eq_true]
  exact or_congr (colorNames_contains_lower_iff s) (isHexColor_iff s.toList)

/-! ### Phone numbers -/

theorem isPhoneChar_iff (c : Char) :
    isPhoneChar c ↔ c.isDigit ∨ c ∈ [' ', '(', ')', '.', '-'] := by
  simp [isPhoneChar, or_assoc]

theorem isPhoneChar_of_isDigit {c : Char} (h : c.isDigit) : isPhoneChar c :=
  (isPhoneChar_iff c).mpr (Or.inl h)

/-- What may stand behind the sign of a number. -/
def isUnsignedPhone (cs : List Char) : Bool :=
  6 ≤ cs.length && cs.all isPhoneChar && (cs.head?.map Char.isDigit).getD false &&
    (cs.getLast?.map Char.isDigit).getD false

theorem isUnsignedPhone_iff (cs : List Char) :
    isUnsignedPhone cs ↔ ∃ first middle last, cs = first :: (middle ++ [last]) ∧
      first.isDigit ∧ last.isDigit ∧ 4 ≤ middle.length ∧
      ∀ c ∈ middle, c.isDigit ∨ c ∈ [' ', '(', ')', '.', '-'] := by
  simp only [← isPhoneChar_iff]
  constructor
  · intro h
    simp only [isUnsignedPhone, Bool.and_eq_true, decide_eq_true_eq, List.all_eq_true] at h
    obtain ⟨⟨⟨hlength, hall⟩, hfirst⟩, hlast⟩ := h
    cases cs with
    | nil => cases hfirst
    | cons first rest =>
      rcases List.eq_nil_or_concat rest with rfl | ⟨middle, last, rfl⟩
      · rw [List.length_singleton] at hlength
        omega
      rw [List.concat_eq_append] at hlength hall hlast ⊢
      refine ⟨first, middle, last, rfl, hfirst, ?_, ?_, ?_⟩
      · rw [← List.cons_append, List.getLast?_concat] at hlast
        exact hlast
      · simp only [List.length_cons, List.length_append, List.length_nil] at hlength
        omega
      · intro c hc
        exact hall c (List.mem_cons_of_mem first (List.mem_append_left _ hc))
  · rintro ⟨first, middle, last, rfl, hfirst, hlast, hlength, hmiddle⟩
    have hlast' : (first :: (middle ++ [last])).getLast? = some last := by
      rw [← List.cons_append, List.getLast?_concat]
    simp only [isUnsignedPhone, Bool.and_eq_true, decide_eq_true_eq, List.all_eq_true, hlast',
      List.head?_cons, Option.map_some, Option.getD_some, hfirst, hlast, and_true]
    constructor
    · simp only [List.length_cons, List.length_append, List.length_nil]
      omega
    · intro c hc
      rcases List.mem_cons.mp hc with rfl | hc
      · exact isPhoneChar_of_isDigit hfirst
      rcases List.mem_append.mp hc with hc | hc
      · exact hmiddle c hc
      · rw [List.mem_singleton.mp hc]
        exact isPhoneChar_of_isDigit hlast

theorem isPhone_iff (cs : List Char) : isPhone cs ↔ Ended PhoneNumber cs := by
  rw [← withoutLineEnd_iff fun body => PhoneNumber.lineEnd_not_mem]
  change isUnsignedPhone (if (withoutLineEnd cs).head? = some '+' then (withoutLineEnd cs).drop 1
    else withoutLineEnd cs) ↔ _
  generalize withoutLineEnd cs = body
  rw [isUnsignedPhone_iff]
  constructor
  · rintro ⟨first, middle, last, hcs, h⟩
    split_ifs at hcs with hsign
    · refine ⟨['+'], first, middle, last, ?_, Or.inr rfl, h⟩
      rw [← hcs, List.drop_one]
      exact List.eq_cons_of_mem_head? hsign
    · exact ⟨[], first, middle, last, hcs, Or.inl rfl, h⟩
  · rintro ⟨sign, first, middle, last, rfl, rfl | rfl, h⟩
    -- without a sign the text begins with a digit, so nothing is taken off
    · have hne : first ≠ '+' := by
        rintro rfl
        exact absurd h.1 (by decide)
      rw [if_neg]
      · exact ⟨first, middle, last, rfl, h⟩
      · exact fun hfirst => hne (Option.some.inj hfirst)
    · exact ⟨first, middle, last, rfl, h⟩

theorem decides_phone : Decides .phone (Ended PhoneNumber) := fun s =>
  ⟨isPhone s.toList, rfl, isPhone_iff s.toList⟩

/-! ### Mail addresses -/

theorem isMailPart_iff (cs : List Char) :
    isMailPart cs ↔ cs ≠ [] ∧ ∀ c ∈ cs, Text.isBlank c = false := by
  simp [isMailPart]

theorem isMail_iff (cs : List Char) : isMail cs ↔ Ended MailAddress cs := by
  rw [← withoutLineEnd_iff fun body => MailAddress.lineEnd_not_mem]
  -- the text has two pieces exactly if one at sign stands in it
  have hpieces (a b : List Char) : pieces '@' (withoutLineEnd cs) = [a, b] ↔
      withoutLineEnd cs = a ++ '@' :: b ∧ '@' ∉ a ∧ '@' ∉ b := by
    rw [Text.pieces_eq_iff (List.cons_ne_nil a [b])]
    simp
  have hpart (p : List Char) : MailPart p ↔ '@' ∉ p ∧ isMailPart p := by
    rw [isMailPart_iff, MailPart]
    grind
  have hmail : isMail cs ↔ ∃ a b, pieces '@' (withoutLineEnd cs) = [a, b] ∧
      isMailPart a ∧ isMailPart b := by
    unfold isMail
    split
    · rename_i a b hab
      simp [hab]
    · rename_i hne
      constructor
      · intro h
        cases h
      · rintro ⟨a, b, hab, -⟩
        exact absurd hab (hne a b)
  rw [hmail, MailAddress]
  simp only [hpieces, hpart]
  grind

theorem decides_email : Decides .email (Ended MailAddress) := fun s =>
  ⟨isMail s.toList, rfl, isMail_iff s.toList⟩

/-! ### Host names -/

theorem isHostLabel_iff (cs : List Char) : isHostLabel cs ↔ Ended HostLabel cs := by
  rw [← withoutLineEnd_iff fun body => HostLabel.lineEnd_not_mem]
  simp [isHostLabel, HostLabel, and_assoc]

theorem HostLabel.point_not_mem (h : HostLabel cs) : '.' ∉ cs := by
  intro hmem
  exact absurd (h.2.2.1 '.' hmem) (by decide)

theorem point_not_mem_of_ended (h : Ended HostLabel cs) : '.' ∉ cs := by
  rcases h with h | ⟨body, rfl, h⟩
  · exact h.point_not_mem
  · intro hmem
    rcases List.mem_append.mp hmem with hmem | hmem
    · exact h.point_not_mem hmem
    · exact absurd hmem (by decide)

theorem ne_nil_of_ended (h : Ended HostLabel cs) : cs ≠ [] := by
  rcases h with h | ⟨body, rfl, h⟩
  · exact h.1
  · exact List.append_ne_nil_of_right_ne_nil body (List.cons_ne_nil _ _)

/-- The points behind a text are those that are taken off it. -/
theorem rdropWhile_append_points (cs : List Char) (n : Nat) :
    (cs ++ List.replicate n '.').rdropWhile (· == '.') = cs.rdropWhile (· == '.') := by
  induction n with
  | zero => rw [List.replicate_zero, List.append_nil]
  | succ n ih =>
    rw [List.replicate_succ', ← List.append_assoc, List.rdropWhile_concat_pos _ _ _ (by rfl), ih]

theorem exists_eq_append_points (cs : List Char) :
    ∃ n, cs = cs.rdropWhile (· == '.') ++ List.replicate n '.' := by
  refine ⟨(cs.rtakeWhile (· == '.')).length, ?_⟩
  have hpoints : cs.rtakeWhile (· == '.') =
      List.replicate (cs.rtakeWhile (· == '.')).length '.' := by
    rw [List.eq_replicate_iff]
    refine ⟨rfl, fun c hc => ?_⟩
    have hpoint := List.mem_rtakeWhile_imp hc
    exact beq_iff_eq.mp hpoint
  rw [← hpoints, List.rdropWhile_append_rtakeWhile]

/-- There is no point to take off a text none of whose pieces is empty. -/
theorem rdropWhile_point (h : [] ∉ pieces '.' cs) : cs.rdropWhile (· == '.') = cs := by
  rw [List.rdropWhile_eq_self_iff]
  intro hne hlast
  have hcs := List.dropLast_append_getLast hne
  rw [beq_iff_eq.mp hlast] at hcs
  apply h
  rw [← hcs]
  exact Text.nil_mem_pieces_concat '.' _

theorem isHostName_iff (cs : List Char) : isHostName cs ↔ HostName (Ended HostLabel) cs := by
  have hcheck : isHostName cs ↔ cs ≠ [] ∧ cs.length ≤ 255 ∧
      ∀ l ∈ pieces '.' (cs.rdropWhile (· == '.')), Ended HostLabel l := by
    simp [isHostName, List.rdropWhile, isHostLabel_iff, and_assoc]
  rw [hcheck]
  constructor
  · rintro ⟨-, hlength, hlabels⟩
    obtain ⟨n, hn⟩ := exists_eq_append_points cs
    obtain ⟨hcore, -⟩ := (Text.pieces_eq_iff (Text.pieces_ne_nil '.' _)).mp rfl
    refine ⟨hlength, pieces '.' (cs.rdropWhile (· == '.')), n, Text.pieces_ne_nil '.' _, hlabels, ?_⟩
    rw [← hcore]
    exact hn
  · rintro ⟨hlength, labels, n, hne, hlabels, hcs⟩
    have hpieces : pieces '.' (['.'].intercalate labels) = labels :=
      (Text.pieces_eq_iff hne).mpr ⟨rfl, fun l hl => point_not_mem_of_ended (hlabels l hl)⟩
    -- a label neither is empty nor holds a point, so the points behind are all that is taken off
    have hcore : cs.rdropWhile (· == '.') = ['.'].intercalate labels := by
      rw [hcs, rdropWhile_append_points, rdropWhile_point]
      rw [hpieces]
      exact fun hmem => ne_nil_of_ended (hlabels [] hmem) rfl
    refine ⟨?_, hlength, ?_⟩
    · rintro rfl
      rw [List.rdropWhile_nil] at hcore
      rw [← hcore] at hpieces
      apply ne_nil_of_ended (hlabels [] _) rfl
      rw [← hpieces]
      exact List.mem_cons_self
    · rw [hcore, hpieces]
      exact hlabels

theorem decides_hostName : Decides .hostName (HostName (Ended HostLabel)) := fun s =>
  ⟨isHostName s.toList, rfl, isHostName_iff s.toList⟩

/-! ### All of them -/

theorem ended_iff (h : '\n' ∉ cs) : Ended G cs ↔ G cs := by
  constructor
  · rintro (hG | ⟨body, rfl, -⟩)
    · exact hG
    · exact absurd (List.mem_append_right body List.mem_cons_self) h
  · exact Or.inl

theorem subset_intercalate (sep : List Char) {labels : List (List Char)} {l : List Char}
    (hl : l ∈ labels) : ∀ c ∈ l, c ∈ sep.intercalate labels := by
  induction labels with
  | nil => cases hl
  | cons first rest ih =>
    intro c hc
    cases rest with
    | nil =>
      rw [List.intercalate_singleton, ← List.mem_singleton.mp hl]
      exact hc
    | cons second rest =>
      rw [List.intercalate_cons_cons, List.append_assoc]
      rcases List.mem_cons.mp hl with rfl | hl
      · exact List.mem_append_left _ hc
      · exact List.mem_append_right _ (List.mem_append_right _ (ih hl c hc))

theorem hostName_congr (h : ∀ l, (∀ c ∈ l, c ∈ cs) → (G l ↔ H l)) :
    HostName G cs ↔ HostName H cs := by
  unfold HostName
  have hlabel {labels : List (List Char)} {n : Nat} {l : List Char} (hl : l ∈ labels)
      (hcs : cs = ['.'].intercalate labels ++ List.replicate n '.') : ∀ c ∈ l, c ∈ cs := by
    intro c hc
    rw [hcs]
    exact List.mem_append_left _ (subset_intercalate ['.'] hl c hc)
  grind

/-- Where neither a line end nor the sign stands, the texts of the grammars are accepted and no
others. -/
theorem accepts_grammars_of_plain (hline : '\n' ∉ s.toList) (hkelvin : kelvinSign ∉ s.toList) :
    (check .color (.str s) = .ok true ↔ ColorName s.toList ∨ HexColor s.toList) ∧
    (check .phone (.str s) = .ok true ↔ PhoneNumber s.toList) ∧
    (check .email (.str s) = .ok true ↔ MailAddress s.toList) ∧
    (check .hostName (.str s) = .ok true ↔ HostName HostLabel s.toList) := by
  have hmap : s.toList.map kelvinAsK = s.toList := by
    have hstay (c : Char) (hc : c ∈ s.toList) : kelvinAsK c = id c :=
      if_neg (ne_of_mem_of_not_mem hc hkelvin)
    rw [List.map_congr_left hstay, List.map_id]
  have hlabels : HostName (Ended HostLabel) s.toList ↔ HostName HostLabel s.toList :=
    hostName_congr fun l hl => ended_iff fun hmem => hline (hl '\n' hmem)
  refine ⟨?_, ?_, ?_, ?_⟩
  · rw [decides_color.iff, hmap, ended_iff hline]
  · rw [decides_phone.iff, ended_iff hline]
  · rw [decides_email.iff, ended_iff hline]
  · rw [decides_hostName.iff, hlabels]

/-- Every text is answered for by its grammar, but for line ends and the Kelvin sign: a line end
may stand behind a color in figures, a phone number, a mail address and any label of a host name,
and the sign may stand for a k in the name of a color. A text that holds neither is accepted just if
it is of the grammar. -/
theorem formats_decide_grammars (s : String) :
    (∀ f ∈ [color, phone, email, hostName], ∃ b, check f (.str s) = .ok b) ∧
    (check .color (.str s) = .ok true ↔
      ColorName (s.toList.map kelvinAsK) ∨ Ended HexColor s.toList) ∧
    (check .phone (.str s) = .ok true ↔ Ended PhoneNumber s.toList) ∧
    (check .email (.str s) = .ok true ↔ Ended MailAddress s.toList) ∧
    (check .hostName (.str s) = .ok true ↔ HostName (Ended HostLabel) s.toList) ∧
    ('\n' ∉ s.toList → kelvinSign ∉ s.toList →
      (check .color (.str s) = .ok true ↔ ColorName s.toList ∨ HexColor s.toList) ∧
      (check .phone (.str s) = .ok true ↔ PhoneNumber s.toList) ∧
      (check .email (.str s) = .ok true ↔ MailAddress s.toList) ∧
      (check .hostName (.str s) = .ok true ↔ HostName HostLabel s.toList)) := by
  refine ⟨?_, decides_color.iff s, decides_phone.iff s, decides_email.iff s,
    decides_hostName.iff s, accepts_grammars_of_plain⟩
  have hanswers {f : Format} {G : List Char → Prop} (h : Decides f G) :
      ∃ b, check f (.str s) = .ok b := by
    obtain ⟨b, hcheck, -⟩ := h s
    exact ⟨b, hcheck⟩
  simp only [List.forall_mem_cons, List.not_mem_nil, false_implies, implies_true, and_true]
  exact ⟨hanswers decides_color, hanswers decides_phone, hanswers decides_email,
    hanswers decides_hostName⟩

/-- Two texts that are in no grammar. -/
theorem color_beyond_grammar :
    (check .color (.str "#fff\n") = .ok true ∧ ¬ColorName "#fff\n".toList ∧
      ¬HexColor "#fff\n".toList) ∧
    (check .color (.str (String.ofList ['b', 'l', 'a', 'c', kelvinSign])) = .ok true ∧
      ¬ColorName ['b', 'l', 'a', 'c', kelvinSign] ∧
      ¬HexColor ['b', 'l', 'a', 'c', kelvinSign]) := by
  have hfigures : isColor "#fff\n" = true := by decide +kernel
  have hname : isColor (String.ofList ['b', 'l', 'a', 'c', kelvinSign]) = true := by decide +kernel
  refine ⟨⟨congrArg Except.ok hfigures, ?_, ?_⟩, ⟨congrArg Except.ok hname, ?_, ?_⟩⟩
  · unfold ColorName
    decide
  · exact fun h => h.lineEnd_not_mem (by decide)
  · unfold ColorName
    decide
  · rintro ⟨digits, h, -⟩
    exact absurd h (by simp)

end Format

end Conform
