import Conform.Text.Quoted
import Conform.Uri.Percent
import Mathlib.Tactic.NormNum

/-!
Quoted literals are read back. Every character that a literal holds is found at its beginning,
escaped or not, and the quote that encloses the literal ends it; so of a text that begins with a
literal, the literal tells what was quoted and where it ends.
-/
namespace Conform.Text

/-- The number that hexadecimal digits stand for. -/
def hexNumber (cs : List Char) : Nat := cs.foldl (fun n c => 16 * n + Uri.hexDigitValue c) 0

def unescapedLetter (e : Char) : Char :=
  if e = 'n' then '\n' else if e = 'r' then '\r' else if e = 't' then '\t' else e

/-- The character that a quoted text begins with, and what follows it. -/
def readEscaped : List Char → Option (Char × List Char)
  | [] => none
  | '\\' :: 'x' :: r => some (Char.ofNat (hexNumber (r.take 2)), r.drop 2)
  | '\\' :: 'u' :: r => some (Char.ofNat (hexNumber (r.take 4)), r.drop 4)
  | '\\' :: 'U' :: r => some (Char.ofNat (hexNumber (r.take 8)), r.drop 8)
  | '\\' :: e :: r => some (unescapedLetter e, r)
  | c :: r => some (c, r)

variable {width n : Nat} {mark c : Char} {cs ds r t : List Char}

theorem hexNumber_toDigits (n : Nat) : hexNumber (Nat.toDigits 16 n) = n := by
  have hdigit : ∀ d < 16, Uri.hexDigitValue d.digitChar = d := by decide
  induction n using Nat.strong_induction_on with
  | _ n ih =>
    rcases Nat.lt_or_ge n 16 with h | h
    · rw [Nat.toDigits_of_lt_base h, hexNumber, List.foldl_cons, List.foldl_nil, hdigit n h,
        Nat.mul_zero, Nat.zero_add]
    · have hlast := hdigit (n % 16) (Nat.mod_lt n (by norm_num))
      have hrest := ih (n / 16) (Nat.div_lt_self (by omega) (by norm_num))
      rw [hexNumber] at hrest
      rw [Nat.toDigits_of_base_le (by norm_num) h, hexNumber, List.foldl_append, List.foldl_cons,
        List.foldl_nil, hlast, hrest]
      omega

theorem hexNumber_hexDigits (width n : Nat) : hexNumber (hexDigits width n) = n := by
  have hzeros (k : Nat) :
      (List.replicate k '0').foldl (fun n c => 16 * n + Uri.hexDigitValue c) 0 = 0 := by
    induction k with
    | zero => rfl
    | succ k ih =>
      rw [List.replicate_succ, List.foldl_cons]
      exact ih
  rw [hexDigits, hexNumber, List.foldl_append, hzeros]
  exact hexNumber_toDigits n

theorem length_hexDigits (hw : 0 < width) (h : n < 16 ^ width) :
    (hexDigits width n).length = width := by
  have hle := (Nat.length_toDigits_le_iff (by norm_num) hw).mpr h
  rw [hexDigits, List.length_append, List.length_replicate]
  omega

theorem readHex (hw : 0 < width) (h : c.toNat < 16 ^ width) (r : List Char) :
    (Char.ofNat (hexNumber ((hexDigits width c.toNat ++ r).take width)),
      (hexDigits width c.toNat ++ r).drop width) = (c, r) := by
  have hlength := length_hexDigits hw h
  rw [List.take_left' hlength, List.drop_left' hlength, hexNumber_hexDigits, Char.ofNat_toNat]

/-- A character stands for itself, or a letter behind a backslash stands for it, or a letter and
as many digits as that letter calls for. -/
theorem escapeChar_eq (hm : mark = '\'' ∨ mark = '"') (c : Char) :
    (c ≠ mark ∧ c ≠ '\\' ∧ escapeChar mark c = [c]) ∨
    (∃ e, e ≠ 'x' ∧ e ≠ 'u' ∧ e ≠ 'U' ∧ unescapedLetter e = c ∧ escapeChar mark c = ['\\', e]) ∨
    ∃ letter width, (letter, width) ∈ [('x', 2), ('u', 4), ('U', 8)] ∧ c.toNat < 16 ^ width ∧
      escapeChar mark c = '\\' :: letter :: hexDigits width c.toNat := by
  unfold escapeChar
  split
  · rename_i h
    refine .inr (.inl ⟨c, ?_⟩)
    have hc : c = '\'' ∨ c = '"' ∨ c = '\\' := by
      rcases h with rfl | rfl
      · exact hm.imp id .inl
      · exact .inr (.inr rfl)
    rcases hc with rfl | rfl | rfl <;> exact ⟨by decide, by decide, by decide, rfl, rfl⟩
  · rename_i hplain
    obtain ⟨hmark, hb⟩ := not_or.mp hplain
    split
    · rename_i h
      exact .inr (.inl ⟨'n', by decide, by decide, by decide, h.symm, rfl⟩)
    · split
      · rename_i h
        exact .inr (.inl ⟨'r', by decide, by decide, by decide, h.symm, rfl⟩)
      · split
        · rename_i h
          exact .inr (.inl ⟨'t', by decide, by decide, by decide, h.symm, rfl⟩)
        · split
          · exact .inl ⟨hmark, hb, rfl⟩
          · dsimp only
            split
            · exact .inr (.inr ⟨'x', 2, by simp, by norm_num; omega, rfl⟩)
            · split
              · exact .inr (.inr ⟨'u', 4, by simp, by norm_num; omega, rfl⟩)
              · have hmost : c.toNat < 0x110000 := by
                  rcases c.valid with h | h
                  · exact h.trans (by norm_num)
                  · exact h.2
                exact .inr (.inr ⟨'U', 8, by simp, by norm_num; omega, rfl⟩)

/-- What is written for a character is read as that character. -/
theorem readEscaped_escapeChar (hm : mark = '\'' ∨ mark = '"') (c : Char) (r : List Char) :
    readEscaped (escapeChar mark c ++ r) = some (c, r) := by
  rcases escapeChar_eq hm c with ⟨-, hb, hc⟩ | ⟨e, hx, hu, hU, he, hc⟩ | ⟨k, w, hk, hlt, hc⟩
  · rw [hc, List.singleton_append, readEscaped.eq_def]
    simp [hb]
  · rw [hc, List.cons_append, List.singleton_append, readEscaped.eq_def]
    simp [he]
  · rw [hc, List.cons_append, List.cons_append]
    simp only [List.mem_cons, Prod.mk.injEq, List.not_mem_nil, or_false] at hk
    rcases hk with ⟨rfl, rfl⟩ | ⟨rfl, rfl⟩ | ⟨rfl, rfl⟩
    · exact congrArg some (readHex (by norm_num) hlt r)
    · exact congrArg some (readHex (by norm_num) hlt r)
    · exact congrArg some (readHex (by norm_num) hlt r)

/-- Nothing that is written for a character begins with the closing quote. -/
theorem head_escapeChar (hm : mark = '\'' ∨ mark = '"') (c : Char) :
    ∃ d rest, escapeChar mark c = d :: rest ∧ d ≠ mark := by
  have hb : '\\' ≠ mark := by rcases hm with rfl | rfl <;> decide
  rcases escapeChar_eq hm c with ⟨hmark, -, hc⟩ | ⟨e, -, -, -, -, hc⟩ | ⟨k, w, -, -, hc⟩
  · exact ⟨c, _, hc, hmark⟩
  · exact ⟨'\\', _, hc, hb⟩
  · exact ⟨'\\', _, hc, hb⟩

/-- The characters before the closing quote are told by the text. -/
theorem flatMap_escapeChar_inj (hm : mark = '\'' ∨ mark = '"')
    (h : cs.flatMap (escapeChar mark) ++ mark :: r = ds.flatMap (escapeChar mark) ++ mark :: t) :
    cs = ds ∧ r = t := by
  have hclosed (d : Char) (ds r t : List Char) :
      mark :: r ≠ (d :: ds).flatMap (escapeChar mark) ++ t := by
    obtain ⟨e, rest, he, hne⟩ := head_escapeChar hm d
    intro h
    rw [List.flatMap_cons, he, List.cons_append, List.cons_append] at h
    exact hne (List.cons.inj h).1.symm
  induction cs generalizing ds with
  | nil =>
    cases ds with
    | nil => exact ⟨rfl, (List.cons.inj h).2⟩
    | cons d ds => exact absurd h (hclosed d ds r _)
  | cons c cs ih =>
    cases ds with
    | nil => exact absurd h.symm (hclosed c cs t _)
    | cons d ds =>
      rw [List.flatMap_cons, List.flatMap_cons, List.append_assoc, List.append_assoc] at h
      have hread := congrArg readEscaped h
      rw [readEscaped_escapeChar hm, readEscaped_escapeChar hm, Option.some.injEq,
        Prod.mk.injEq] at hread
      obtain ⟨hcs, hr⟩ := ih hread.2
      exact ⟨by rw [hread.1, hcs], hr⟩

theorem quoteMark_eq (cs : List Char) : quoteMark cs = '\'' ∨ quoteMark cs = '"' := by
  unfold quoteMark
  split
  · exact .inr rfl
  · exact .inl rfl

theorem toList_quoted (s : String) : (quoted s).toList =
    quoteMark s.toList :: (s.toList.flatMap (escapeChar (quoteMark s.toList)) ++
      [quoteMark s.toList]) := by
  rw [quoted, String.toList_ofList, quotedChars, List.cons_append]

/-- A quoted text at the beginning of a text is told by it, and so is what follows. -/
theorem quoted_append_inj {s s' : String}
    (h : (quoted s).toList ++ r = (quoted s').toList ++ t) : s = s' ∧ r = t := by
  rw [toList_quoted, toList_quoted, List.cons_append, List.cons_append, List.append_assoc,
    List.append_assoc, List.singleton_append, List.singleton_append] at h
  obtain ⟨hmark, hrest⟩ := List.cons.inj h
  rw [hmark] at hrest
  obtain ⟨hs, hr⟩ := flatMap_escapeChar_inj (quoteMark_eq _) hrest
  exact ⟨String.toList_inj.mp hs, hr⟩

end Conform.Text
