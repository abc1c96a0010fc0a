import Conform.Pointer.Resolve
import Conform.Uri.Percent
import Mathlib.Tactic.IntervalCases

/-!
Pointers written into references. The text of a pointer is read back as that pointer, and a text
whose octets are escaped, but for those of the characters that need no escape, is unescaped to
itself.
-/
namespace Conform

namespace Text

/-- Pieces in front of a separator are split off it. -/
theorem pieces_append {sep : Char} {cs : List Char} (h : sep ∉ cs) (rest : List Char) :
    pieces sep (cs ++ sep :: rest) = cs :: pieces sep rest := by
  induction cs with
  | nil => simp [pieces]
  | cons c cs ih =>
    have hc : c ≠ sep := (List.ne_of_not_mem_cons h).symm
    rw [List.cons_append, pieces, if_neg hc, ih (List.not_mem_of_not_mem_cons h)]

theorem pieces_of_not_mem {sep : Char} {cs : List Char} (h : sep ∉ cs) : pieces sep cs = [cs] := by
  induction cs with
  | nil => rfl
  | cons c cs ih =>
    have hc : c ≠ sep := (List.ne_of_not_mem_cons h).symm
    rw [pieces, if_neg hc, ih (List.not_mem_of_not_mem_cons h)]

end Text

namespace Pointer

theorem slash_not_mem_escape (cs : List Char) : '/' ∉ escape cs := by
  intro h
  obtain ⟨c, _, hc⟩ := List.mem_flatMap.mp h
  unfold escapeChar at hc
  split at hc
  · simp at hc
  · split at hc
    · simp at hc
    · rename_i hslash
      exact hslash (List.mem_singleton.mp hc).symm

theorem unescape_escape (cs : List Char) : unescape (escape cs) = some cs := by
  induction cs with
  | nil => rfl
  | cons c cs ih =>
    have hcons : escape (c :: cs) = escapeChar c ++ escape cs := List.flatMap_cons
    rw [hcons, escapeChar]
    split
    · rename_i h
      simp [unescape, ih, h]
    · split
      · rename_i h
        simp [unescape, ih, h]
      · rename_i hne _
        simp [unescape, ih, hne]

theorem textChars_cons (t : String) (ts : List String) :
    textChars (t :: ts) = '/' :: (escape t.toList ++ textChars ts) :=
  List.flatMap_cons

/-- The tokens of a text are those it was written from. -/
theorem unescapeAll_pieces (t : String) (ts : List String) :
    unescapeAll (Text.pieces '/' (escape t.toList ++ textChars ts)) = .ok (t :: ts) := by
  induction ts generalizing t with
  | nil =>
    have hone := Text.pieces_of_not_mem (slash_not_mem_escape t.toList)
    simp [textChars, hone, unescapeAll, unescape_escape, Except.map]
  | cons u us ih =>
    rw [textChars_cons, Text.pieces_append (slash_not_mem_escape t.toList)]
    simp [unescapeAll, unescape_escape, ih, Except.map]

theorem parse_text (p : Pointer) : parse p.text = .ok p := by
  obtain ⟨tokens⟩ := p
  cases tokens with
  | nil => rfl
  | cons t ts => simp [parse, text, textChars_cons, unescapeAll_pieces, Except.map]

/-- No two pointers are written alike. -/
theorem text_injective : Function.Injective text := by
  intro p q h
  have hp := parse_text p
  rw [h, parse_text q] at hp
  exact (Except.ok.inj hp).symm

end Pointer

namespace Uri

/-- Characters that stand for themselves in a fragment that a pointer is written into. -/
def isUnreserved (c : Char) : Bool :=
  c.isAlphanum || c == '_' || c == '.' || c == '-' || c == '~' || c == '/'

def hexDigit (n : Nat) : Char := Char.ofNat (if n < 10 then 48 + n else 55 + n)

def escapedOctet (o : UInt8) : List Char :=
  ['%', hexDigit (o.toNat / 16), hexDigit (o.toNat % 16)]

def percentEncodedChar (c : Char) : List Char :=
  if isUnreserved c then [c] else (String.utf8EncodeChar c).flatMap escapedOctet

def percentEncodedChars (cs : List Char) : List Char := cs.flatMap percentEncodedChar

/-- A text with an escape for every octet of the characters that are not left as they are. -/
def percentEncoded (s : String) : String := String.ofList (percentEncodedChars s.toList)

theorem hexDigit_spec : ∀ n < 16, Address.isHexDigit (hexDigit n) ∧ hexDigitValue (hexDigit n) = n ∧
    (hexDigit n).isAlphanum := by
  decide

theorem isUnreserved_ne_percent {c : Char} (h : isUnreserved c) : c ≠ '%' := by
  rintro rfl
  revert h
  decide

theorem mem_percentEncodedChars {cs : List Char} {c : Char} (h : c ∈ percentEncodedChars cs) :
    isUnreserved c ∨ c = '%' := by
  have hdigit {n : Nat} (hn : n < 16) : isUnreserved (hexDigit n) := by
    simp [isUnreserved, (hexDigit_spec n hn).2.2]
  obtain ⟨d, _, hc⟩ := List.mem_flatMap.mp h
  unfold percentEncodedChar at hc
  split at hc
  · rename_i hd
    rw [List.mem_singleton.mp hc]
    exact .inl hd
  · obtain ⟨o, _, hc⟩ := List.mem_flatMap.mp hc
    have hlt : o.toNat < 256 := o.toNat_lt
    simp only [escapedOctet, List.mem_cons, List.not_mem_nil, or_false] at hc
    rcases hc with rfl | rfl | rfl
    · exact .inr rfl
    · exact .inl (hdigit (by omega))
    · exact .inl (hdigit (by omega))

theorem unescapedOctets_cons {c : Char} (h : c ≠ '%') (cs : List Char) :
    unescapedOctets (c :: cs) =
      (String.utf8EncodeChar c).map UInt8.toNat ++ unescapedOctets cs := by
  rw [unescapedOctets]
  intro a b r hc
  exact absurd hc h

theorem unescapedOctets_escaped (os : List UInt8) (cs : List Char) :
    unescapedOctets (os.flatMap escapedOctet ++ cs) = os.map UInt8.toNat ++ unescapedOctets cs := by
  induction os with
  | nil => rfl
  | cons o os ih =>
    have hlt : o.toNat < 256 := o.toNat_lt
    obtain ⟨hhigh, hhighv, _⟩ := hexDigit_spec (o.toNat / 16) (by omega)
    obtain ⟨hlow, hlowv, _⟩ := hexDigit_spec (o.toNat % 16) (by omega)
    have hvalue : 16 * (o.toNat / 16) + o.toNat % 16 = o.toNat := by omega
    rw [List.flatMap_cons, escapedOctet, List.append_assoc]
    simp only [List.cons_append, List.nil_append]
    rw [unescapedOctets, hhigh, hlow, hhighv, hlowv, hvalue, ih]
    rfl

theorem unescapedOctets_encoded (cs : List Char) : unescapedOctets (percentEncodedChars cs) =
    (cs.flatMap String.utf8EncodeChar).map UInt8.toNat := by
  induction cs with
  | nil => rfl
  | cons c cs ih =>
    have hcons : percentEncodedChars (c :: cs) = percentEncodedChar c ++ percentEncodedChars cs :=
      List.flatMap_cons
    rw [hcons, List.flatMap_cons, List.map_append, ← ih, percentEncodedChar]
    split
    · rename_i h
      exact unescapedOctets_cons (isUnreserved_ne_percent h) _
    · exact unescapedOctets_escaped _ _

/-- An octet that continues a character which lacks others still. -/
theorem decodeFrom_next {b : Begun} {o : Nat} (hl : b.low ≤ o) (hh : o ≤ b.high)
    (hm : 1 < b.missing) (os : List Nat) : decodeFrom (some b) (o :: os) =
      decodeFrom (some ⟨64 * b.bits + (o - 0x80), b.missing - 1, 0x80, 0xbf⟩) os := by
  have hrange : (b.low ≤ o && o ≤ b.high) = true := by simp [hl, hh]
  simp only [decodeFrom, hrange, if_true, if_neg (Nat.not_le.mpr hm)]

/-- The octet that a character lacks. -/
theorem decodeFrom_last {b : Begun} {o : Nat} (hl : b.low ≤ o) (hh : o ≤ b.high)
    (hm : b.missing = 1) (os : List Nat) : decodeFrom (some b) (o :: os) =
      Char.ofNat (64 * b.bits + (o - 0x80)) :: decodeFrom none os := by
  have hrange : (b.low ≤ o && o ≤ b.high) = true := by simp [hl, hh]
  simp only [decodeFrom, hrange, if_true, hm, Nat.le_refl]

theorem decodeFrom_begin {b : Begun} {o : Nat} (h : begin? o = .ok b) (os : List Nat) :
    decodeFrom none (o :: os) = decodeFrom (some b) os := by
  simp only [decodeFrom, h]

theorem begin?_two {o : Nat} (hl : 0xc2 ≤ o) (hh : o ≤ 0xdf) :
    begin? o = .ok ⟨o - 0xc0, 1, 0x80, 0xbf⟩ := by
  have hlead : (0xc2 ≤ o && o ≤ 0xdf) = true := by simp [hl, hh]
  rw [begin?, if_neg (by omega), if_pos hlead]

/-- The octet behind the first of three may not make them stand for less than three, nor for a
surrogate. -/
theorem begin?_three {o : Nat} (hl : 0xe0 ≤ o) (hh : o ≤ 0xef) :
    begin? o = .ok ⟨o - 0xe0, 2, if o = 0xe0 then 0xa0 else 0x80,
      if o = 0xed then 0x9f else 0xbf⟩ := by
  have : o = 0xe0 ∨ o = 0xed ∨ (o ≠ 0xe0 ∧ o ≠ 0xed) := by omega
  obtain rfl | rfl | ⟨hlow, hhigh⟩ := this
  · rfl
  · rfl
  · have htwo : ¬ (0xc2 ≤ o && o ≤ 0xdf) = true := by simp; omega
    have hlead : (0xe1 ≤ o && o ≤ 0xef) = true := by simp; omega
    rw [begin?, if_neg (by omega), if_neg htwo, if_neg hlow, if_neg hhigh, if_pos hlead,
      if_neg hlow, if_neg hhigh]

/-- The octet behind the first of four may not make them stand for less than four, nor for more
than there are characters. -/
theorem begin?_four {o : Nat} (hl : 0xf0 ≤ o) (hh : o ≤ 0xf4) :
    begin? o = .ok ⟨o - 0xf0, 3, if o = 0xf0 then 0x90 else 0x80,
      if o = 0xf4 then 0x8f else 0xbf⟩ := by
  interval_cases o <;> rfl

theorem decodeFrom_one {v : Nat} (h : v ≤ 0x7f) (os : List Nat) :
    decodeFrom none (v :: os) = Char.ofNat v :: decodeFrom none os := by
  have hbegin : begin? v = .error (Char.ofNat v) := by rw [begin?, if_pos (by omega)]
  simp only [decodeFrom, hbegin]

theorem decodeFrom_two {v : Nat} (hl : 0x7f < v) (hh : v ≤ 0x7ff) (os : List Nat) :
    decodeFrom none ((v / 64 % 32 + 192) :: (v % 64 + 128) :: os) =
      Char.ofNat v :: decodeFrom none os := by
  rw [decodeFrom_begin (begin?_two (by omega) (by omega)),
    decodeFrom_last (by dsimp only; omega) (by dsimp only; omega) rfl]
  have hvalue : 64 * (v / 64 % 32 + 192 - 0xc0) + (v % 64 + 128 - 0x80) = v := by omega
  rw [hvalue]

theorem decodeFrom_three {v : Nat} (hl : 0x7ff < v) (hh : v ≤ 0xffff)
    (hv : v < 0xd800 ∨ 0xdfff < v) (os : List Nat) :
    decodeFrom none ((v / 4096 % 16 + 224) :: (v / 64 % 64 + 128) :: (v % 64 + 128) :: os) =
      Char.ofNat v :: decodeFrom none os := by
  rw [decodeFrom_begin (begin?_three (by omega) (by omega)),
    decodeFrom_next (by dsimp only; split <;> omega) (by dsimp only; split <;> omega)
      (by dsimp only; omega),
    decodeFrom_last (by dsimp only; omega) (by dsimp only; omega) rfl]
  have hvalue : 64 * (64 * (v / 4096 % 16 + 224 - 0xe0) + (v / 64 % 64 + 128 - 0x80)) +
      (v % 64 + 128 - 0x80) = v := by omega
  rw [hvalue]

theorem decodeFrom_four {v : Nat} (hl : 0xffff < v) (hh : v < 0x110000) (os : List Nat) :
    decodeFrom none ((v / 262144 % 8 + 240) :: (v / 4096 % 64 + 128) :: (v / 64 % 64 + 128) ::
      (v % 64 + 128) :: os) = Char.ofNat v :: decodeFrom none os := by
  rw [decodeFrom_begin (begin?_four (by omega) (by omega)),
    decodeFrom_next (by dsimp only; split <;> omega) (by dsimp only; split <;> omega)
      (by dsimp only; omega),
    decodeFrom_next (by dsimp only; omega) (by dsimp only; omega) (by dsimp only; omega),
    decodeFrom_last (by dsimp only; omega) (by dsimp only; omega) rfl]
  have hvalue : 64 * (64 * (64 * (v / 262144 % 8 + 240 - 0xf0) + (v / 4096 % 64 + 128 - 0x80)) +
      (v / 64 % 64 + 128 - 0x80)) + (v % 64 + 128 - 0x80) = v := by omega
  rw [hvalue]

/-- The octets of a character are read as that character. -/
theorem decodeFrom_utf8EncodeChar (c : Char) (os : List Nat) :
    decodeFrom none ((String.utf8EncodeChar c).map UInt8.toNat ++ os) =
      c :: decodeFrom none os := by
  have hv : c.val.toNat < 0xd800 ∨ (0xdfff < c.val.toNat ∧ c.val.toNat < 0x110000) := c.valid
  have hc : Char.ofNat c.val.toNat = c := Char.ofNat_toNat c
  have hoctet {n : Nat} (h : n < 256) : (UInt8.ofNat n).toNat = n := by
    rw [UInt8.toNat_ofNat']
    omega
  unfold String.utf8EncodeChar
  dsimp only
  generalize c.val.toNat = v at hv hc
  rw [← hc]
  split
  · simp only [List.map_cons, List.map_nil, List.cons_append, List.nil_append]
    rw [hoctet (by omega)]
    exact decodeFrom_one (by omega) os
  · split
    · simp only [List.map_cons, List.map_nil, List.cons_append, List.nil_append]
      rw [hoctet (by omega), hoctet (by omega)]
      exact decodeFrom_two (by omega) (by omega) os
    · split
      · simp only [List.map_cons, List.map_nil, List.cons_append, List.nil_append]
        rw [hoctet (by omega), hoctet (by omega), hoctet (by omega)]
        exact decodeFrom_three (by omega) (by omega) (by omega) os
      · simp only [List.map_cons, List.map_nil, List.cons_append, List.nil_append]
        rw [hoctet (by omega), hoctet (by omega), hoctet (by omega), hoctet (by omega)]
        exact decodeFrom_four (by omega) (by omega) os

theorem decodeFrom_flatMap (cs : List Char) :
    decodeFrom none ((cs.flatMap String.utf8EncodeChar).map UInt8.toNat) = cs := by
  induction cs with
  | nil => rfl
  | cons c cs ih =>
    rw [List.flatMap_cons, List.map_append, decodeFrom_utf8EncodeChar, ih]

/-- Escapes are read back as the text that they were put into. -/
theorem percentDecoded_percentEncoded (s : String) : percentDecoded (percentEncoded s) = s := by
  unfold percentDecoded percentEncoded
  rw [String.toList_ofList, unescapedOctets_encoded, decodeFrom_flatMap, String.ofList_toList]

end Uri

end Conform
