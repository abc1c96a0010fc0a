import Conform.Text.Case
import Mathlib.Data.List.Basic
import Mathlib.Tactic.Push
import Mathlib.Tactic.SplitIfs

/-!
Lower case and the letters of ASCII. Outside ASCII, the Kelvin sign alone has a letter of ASCII and
nothing else as its lower case, so a text has a given word of small letters as its lower case just
if it is this word in letters of either case, with the sign perhaps for a k.
-/
namespace Conform.Text

/-- The sign for kelvins, which has the small letter k as its lower case. -/
def kelvinSign : Char := Char.ofNat 0x212a

def kelvinAsK (c : Char) : Char := if c = kelvinSign then 'k' else c

variable {c : Char}

theorem isLower_iff (c : Char) : c.isLower = true ↔ 97 ≤ c.toNat ∧ c.toNat ≤ 122 := by
  change (decide ('a'.val ≤ c.val) && decide (c.val ≤ 'z'.val)) = true ↔ _
  simp only [Bool.and_eq_true, decide_eq_true_eq, UInt32.le_iff_toNat_le]
  exact Iff.rfl

theorem ofNat_not_isLower {n : Nat} (hn : 128 ≤ n) : (Char.ofNat n).isLower = false := by
  by_cases hv : n.isValidChar
  · have htoNat : (Char.ofNat n).toNat = n := by
      rw [Char.ofNat, dif_pos hv]
      rfl
    rw [← Bool.not_eq_true, isLower_iff, htoNat]
    omega
  · rw [Char.ofNat, dif_neg hv]
    rfl

theorem toLower_of_not_ascii (h : 128 ≤ c.toNat) : c.toLower = c := by
  have hval : c.val.toNat = c.toNat := rfl
  unfold Char.toLower
  rw [dif_neg]
  rintro ⟨-, hle⟩
  rw [UInt32.le_iff_toNat_le] at hle
  have hZ : ('Z' : Char).val.toNat = 90 := rfl
  omega

/-- No entry of the table but those of the dotted capital I and the Kelvin sign leads to ASCII. -/
theorem lowerShifts_entry : ∀ e ∈ lowerShifts,
    (e.1 = 0x130 ∧ e.2.1 = 0x130) ∨ (e.1 = 0x212a ∧ e.2.1 = 0x212a) ∨
      128 ≤ (e.1 : Int) + e.2.2.2 := by
  decide +kernel

/-- A code point stays, or is moved by an entry of the table in whose range it is. -/
theorem shifted_cases (t : ShiftTable) (n : Nat) :
    t.shifted n = n ∨ ∃ e ∈ t, e.1 ≤ n ∧ n ≤ e.2.1 ∧ t.shifted n = ((n : Int) + e.2.2.2).toNat := by
  have hlook : ∃ i, t.shifted n =
      if (t.getD i (1, 0, 1, 0)).1 ≤ n ∧ n ≤ (t.getD i (1, 0, 1, 0)).2.1 ∧
        (n - (t.getD i (1, 0, 1, 0)).1) % (t.getD i (1, 0, 1, 0)).2.2.1 = 0
      then ((n : Int) + (t.getD i (1, 0, 1, 0)).2.2.2).toNat else n := ⟨_, rfl⟩
  obtain ⟨i, hlook⟩ := hlook
  by_cases hi : i < t.size
  · rw [Array.getD_eq_getD_getElem?, Array.getElem?_eq_getElem hi, Option.getD_some] at hlook
    split_ifs at hlook with hin
    · exact Or.inr ⟨t[i], Array.getElem_mem hi, hin.1, hin.2.1, hlook⟩
    · exact Or.inl hlook
  · rw [Array.getD_eq_getD_getElem?, Array.getElem?_eq_none (Nat.le_of_not_lt hi),
      Option.getD_none] at hlook
    left
    rw [hlook, if_neg]
    rintro ⟨hfirst, hlast, -⟩
    exact absurd (Nat.le_trans hfirst hlast) (by decide)

theorem shifted_not_ascii {n : Nat} (hn : 128 ≤ n) (hI : n ≠ 0x130) (hK : n ≠ 0x212a) :
    128 ≤ lowerShifts.shifted n := by
  rcases shifted_cases lowerShifts n with h | ⟨e, he, hfirst, hlast, h⟩
  · rw [h]
    exact hn
  · rw [h]
    rcases lowerShifts_entry e he with ⟨h1, h2⟩ | ⟨h1, h2⟩ | hshift
    · exact absurd (Nat.le_antisymm (h2 ▸ hlast) (h1 ▸ hfirst)) hI
    · exact absurd (Nat.le_antisymm (h2 ▸ hlast) (h1 ▸ hfirst)) hK
    · omega

theorem lowerChar_ascii : ∀ n < 128, lowerChar (Char.ofNat n) = [(Char.ofNat n).toLower] := by
  decide +kernel

/-- The lower case of a character is one of ASCII for the characters of ASCII and the Kelvin sign
only; of any other character it has something that is no small letter of ASCII. -/
theorem lowerChar_cases (c : Char) :
    lowerChar c = [(kelvinAsK c).toLower] ∨
      (kelvinAsK c).toLower.isLower = false ∧ ∃ d ∈ lowerChar c, d.isLower = false := by
  by_cases hascii : c.toNat < 128
  · left
    have hne : c ≠ kelvinSign := by
      rintro rfl
      exact absurd hascii (by decide)
    have h := lowerChar_ascii c.toNat hascii
    rw [Char.ofNat_toNat] at h
    rw [h, kelvinAsK, if_neg hne]
  by_cases hkelvin : c = kelvinSign
  · left
    subst hkelvin
    decide +kernel
  right
  have hle : 128 ≤ c.toNat := Nat.le_of_not_lt hascii
  constructor
  · rw [kelvinAsK, if_neg hkelvin, toLower_of_not_ascii hle, ← Bool.not_eq_true, isLower_iff]
    omega
  · by_cases hI : c.toNat = 0x130
    · rw [lowerChar, if_pos hI]
      exact ⟨Char.ofNat 0x307, by simp, by decide⟩
    · have hK : c.toNat ≠ 0x212a := by
        intro h
        apply hkelvin
        rw [← Char.ofNat_toNat c, h, kelvinSign]
      rw [lowerChar, if_neg hI, lowerCode, if_neg hascii]
      exact ⟨_, List.mem_singleton_self _, ofNat_not_isLower (shifted_not_ascii hle hI hK)⟩

/-- A text in lower case is a given text of small letters of ASCII just if it is that text with
the Kelvin sign for a k, whatever the case of its letters. -/
theorem lower_eq_iff {name : List Char} (hname : ∀ c ∈ name, c.isLower) (cs : List Char) :
    cs.flatMap lowerChar = name ↔ (cs.map kelvinAsK).map Char.toLower = name := by
  by_cases h : ∀ c ∈ cs, lowerChar c = [(kelvinAsK c).toLower]
  · have hmap : cs.flatMap lowerChar = (cs.map kelvinAsK).map Char.toLower := by
      rw [List.flatMap_congr h, List.map_map, List.map_eq_flatMap]
      rfl
    rw [hmap]
  · push Not at h
    obtain ⟨c, hc, hne⟩ := h
    obtain ⟨hlow, d, hd, hdlow⟩ := (lowerChar_cases c).resolve_left hne
    -- neither text consists of small letters of ASCII
    constructor
    · rintro rfl
      have hd' := hname d (List.mem_flatMap.mpr ⟨c, hc, hd⟩)
      simp [hdlow] at hd'
    · rintro rfl
      have hc' := hname _ (List.mem_map_of_mem (List.mem_map_of_mem hc))
      simp [hlow] at hc'

end Conform.Text
