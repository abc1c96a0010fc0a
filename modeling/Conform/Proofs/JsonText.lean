import Conform.Proofs.NumberText
import Conform.Proofs.Rearranged

/-!
JSON text as it is written and as it is read. What is written for a value stands on one line, and
reading it gives the value back with its members in the order of their names; only foreign values
and integers that are too long are not written.
-/
namespace Conform.Json

variable {acc cs rest r tail : List Char} {c d e : Char}

theorem readString_quote (acc r : List Char) :
    readString acc ('"' :: r) = some (String.ofList acc.reverse, r) := by
  rw [readString]

theorem readString_plain (acc r : List Char) (hq : c ≠ '"') (hb : c ≠ '\\') (hc : 32 ≤ c.toNat) :
    readString acc (c :: r) = readString (c :: acc) r := by
  rw [readString.eq_def]
  simp [hb, Nat.not_lt.mpr hc]

theorem readString_simple (acc r : List Char) (hu : e ≠ 'u') (h : simpleEscape? e = some d) :
    readString acc ('\\' :: e :: r) = readString (d :: acc) r := by
  rw [readString.eq_def]
  simp [hu, h]

/-- Whether the code unit that a text begins with, if it begins with one, can be read. -/
def BeginsWell (tail : List Char) : Prop :=
  ∀ e f g h r, tail = '\\' :: 'u' :: e :: f :: g :: h :: r → ∃ w, unit? e f g h = some w

theorem readString_unit (acc : List Char) {a b c d : Char} {u : Nat} (h : unit? a b c d = some u)
    (hu : isLeading u = false) (htail : BeginsWell tail) :
    readString acc ('\\' :: 'u' :: a :: b :: c :: d :: tail) =
      readString (Char.ofNat u :: acc) tail := by
  rw [readString.eq_def]
  split
  · rename_i heq
    cases heq
  · rename_i heq
    cases heq
  · -- another code unit follows, which does not complete this one
    rename_i e f g k r heq
    cases heq
    obtain ⟨w, hw⟩ := htail _ _ _ _ _ rfl
    simp [h, hw, hu]
  · rename_i heq
    cases heq
    simp [h, hu]
  · rename_i hnone heq
    cases heq
    exact (hnone _ _ _ _ _ rfl rfl).elim
  · rename_i hnone heq
    cases heq
    exact (hnone _ _ rfl rfl).elim

theorem unit?_hexDigits : ∀ n < 32,
    Text.hexDigits 4 n = ['0', '0', (n / 16).digitChar, (n % 16).digitChar] ∧
      unit? '0' '0' (n / 16).digitChar (n % 16).digitChar = some n ∧ isLeading n = false := by
  decide

theorem escaped_eq (c : Char) :
    (c ≠ '"' ∧ c ≠ '\\' ∧ 32 ≤ c.toNat ∧ escaped c = [c]) ∨
    (∃ e, e ≠ 'u' ∧ 32 ≤ e.toNat ∧ simpleEscape? e = some c ∧ escaped c = ['\\', e]) ∨
    (c.toNat < 32 ∧ escaped c = '\\' :: 'u' :: Text.hexDigits 4 c.toNat) := by
  unfold escaped
  split
  · rename_i h
    refine .inr (.inl ⟨c, ?_, ?_, ?_, rfl⟩) <;> rcases h with rfl | rfl <;> decide
  · rename_i hquote
    obtain ⟨hq, hb⟩ := not_or.mp hquote
    split
    · rename_i h
      exact .inr (.inl ⟨'n', by decide, by decide, by rw [h]; decide, rfl⟩)
    · split
      · rename_i h
        exact .inr (.inl ⟨'r', by decide, by decide, by rw [h]; decide, rfl⟩)
      · split
        · rename_i h
          exact .inr (.inl ⟨'t', by decide, by decide, by rw [h]; decide, rfl⟩)
        · split
          · rename_i h
            have hc : c = Char.ofNat 12 := by rw [← h, Char.ofNat_toNat]
            exact .inr (.inl ⟨'f', by decide, by decide, by rw [hc]; decide, rfl⟩)
          · split
            · rename_i h
              have hc : c = Char.ofNat 8 := by rw [← h, Char.ofNat_toNat]
              exact .inr (.inl ⟨'b', by decide, by decide, by rw [hc]; decide, rfl⟩)
            · split
              · rename_i h
                exact .inr (.inr ⟨h, rfl⟩)
              · rename_i h
                exact .inl ⟨hq, hb, Nat.not_lt.mp h, rfl⟩

theorem beginsWell_escaped (cs rest : List Char) :
    BeginsWell (cs.flatMap escaped ++ '"' :: rest) := by
  intro e f g h r heq
  cases cs with
  | nil => cases heq
  | cons c cs =>
    rw [List.flatMap_cons, List.append_assoc] at heq
    rcases escaped_eq c with ⟨-, hb, -, hc⟩ | ⟨k, hu, -, -, hc⟩ | ⟨hlt, hc⟩
    · rw [hc] at heq
      exact absurd (List.cons.inj heq).1 hb
    · rw [hc] at heq
      exact absurd (List.cons.inj (List.cons.inj heq).2).1 hu
    · obtain ⟨hdigits, hunit, -⟩ := unit?_hexDigits c.toNat hlt
      rw [hc, hdigits] at heq
      simp only [List.cons_append, List.cons.injEq, true_and, List.nil_append] at heq
      obtain ⟨rfl, rfl, rfl, rfl, -⟩ := heq
      exact ⟨_, hunit⟩

/-- A string is read as what it was written for. -/
theorem readString_escaped (acc cs rest : List Char) :
    readString acc (cs.flatMap escaped ++ '"' :: rest) =
      some (String.ofList (acc.reverse ++ cs), rest) := by
  induction cs generalizing acc with
  | nil => rw [List.flatMap_nil, List.nil_append, readString_quote, List.append_nil]
  | cons c cs ih =>
    have hnext : readString acc ((c :: cs).flatMap escaped ++ '"' :: rest) =
        readString (c :: acc) (cs.flatMap escaped ++ '"' :: rest) := by
      rw [List.flatMap_cons, List.append_assoc]
      rcases escaped_eq c with ⟨hq, hb, hle, hc⟩ | ⟨k, hu, -, hk, hc⟩ | ⟨hlt, hc⟩
      · rw [hc]
        exact readString_plain acc _ hq hb hle
      · rw [hc]
        exact readString_simple acc _ hu hk
      · obtain ⟨hdigits, hunit, hleading⟩ := unit?_hexDigits c.toNat hlt
        rw [hc, hdigits]
        have hread := readString_unit acc hunit hleading (beginsWell_escaped cs rest)
        rw [Char.ofNat_toNat] at hread
        exact hread
    rw [hnext, ih, List.reverse_cons, List.append_assoc, List.singleton_append]

/-- The characters of a string as it is written, after the opening quotation mark. -/
theorem toList_stringText (s : String) :
    (stringText s).toList = '"' :: (s.toList.flatMap escaped ++ ['"']) := by
  rw [stringText, String.toList_ofList, List.cons_append]

theorem readString_stringText (s : String) (rest : List Char) :
    readString [] (s.toList.flatMap escaped ++ '"' :: rest) = some (s, rest) := by
  rw [readString_escaped, List.reverse_nil, List.nil_append, String.ofList_toList]

/-- Whether a text does not go on with a character of a number. -/
def EndsNumber (rest : List Char) : Prop := ∀ c ∈ rest.head?, isNumberChar c = false

/-- Whether a text is read as a value, whatever follows that is no part of a number. A fuel of
twice its length suffices, one for each value and one for the place it has in a list. -/
structure Reads (cs : List Char) (w : Value) : Prop where
  start : ∃ c r, cs = c :: r ∧ isSpace c = false ∧ c ≠ ']'
  read : ∀ fuel rest, 2 * cs.length ≤ fuel → EndsNumber rest →
    readValue fuel (cs ++ rest) = some (w, rest)

theorem skipSpace_cons (r : List Char) (h : isSpace c = false) : skipSpace (c :: r) = c :: r := by
  rw [skipSpace, List.dropWhile_cons_of_neg (by simp [h])]

theorem reads_of_succ {w : Value} (hc : isSpace c = false) (hne : c ≠ ']')
    (h : ∀ fuel rest, EndsNumber rest → readValue (fuel + 1) (c :: r ++ rest) = some (w, rest)) :
    Reads (c :: r) w := by
  refine ⟨⟨c, r, rfl, hc, hne⟩, ?_⟩
  intro fuel rest hfuel hrest
  rw [List.length_cons] at hfuel
  obtain ⟨fuel, rfl⟩ := Nat.exists_eq_succ_of_ne_zero (show fuel ≠ 0 by omega)
  exact h fuel rest hrest

theorem reads_null : Reads "null".toList .null :=
  reads_of_succ rfl (by decide) fun _ _ _ => rfl

theorem reads_bool (b : Bool) : Reads (if b then "true" else "false").toList (.bool b) := by
  cases b
  · exact reads_of_succ rfl (by decide) fun _ _ _ => rfl
  · exact reads_of_succ rfl (by decide) fun _ _ _ => rfl

theorem reads_str (s : String) : Reads (stringText s).toList (.str s) := by
  rw [toList_stringText]
  refine reads_of_succ rfl (by decide) fun fuel rest _ => ?_
  rw [readValue, List.cons_append, List.append_assoc, List.singleton_append,
    skipSpace_cons _ rfl]
  simp only [readString_stringText, Option.map_some]

theorem isSpace_of_isDigit (h : c.isDigit) : isSpace c = false := by
  by_contra hspace
  simp only [isSpace, Bool.or_eq_true, beq_iff_eq, Bool.not_eq_false] at hspace
  rcases hspace with ((rfl | rfl) | rfl) | rfl <;> cases h

/-- What is read where a number begins. -/
theorem readValue_number (fuel : Nat) (hspace : isSpace c = false)
    (hc : c.isDigit ∨ c = '-' ∧ ∀ k ∈ r.head?, k.isDigit) :
    readValue (fuel + 1) (c :: r) =
      match numberOf? ((c :: r).takeWhile isNumberChar) with
      | some v => some (v, (c :: r).dropWhile isNumberChar)
      | none => none := by
  have hword {k : Char} (hk : k.isDigit = false) (hm : k ≠ '-') : c ≠ k := by
    rintro rfl
    rcases hc with hc | hc
    · rw [hk] at hc
      cases hc
    · exact hm hc.1
  rw [readValue, skipSpace_cons r hspace]
  split
  · rename_i h
    exact absurd (List.cons.inj h).1 (hword rfl (by decide))
  · rename_i h
    exact absurd (List.cons.inj h).1 (hword rfl (by decide))
  · rename_i h
    exact absurd (List.cons.inj h).1 (hword rfl (by decide))
  · rename_i h
    exact absurd (List.cons.inj h).1 (hword rfl (by decide))
  · rename_i h
    exact absurd (List.cons.inj h).1 (hword rfl (by decide))
  · rename_i h
    exact absurd (List.cons.inj h).1 (hword rfl (by decide))
  · rename_i h
    exact absurd (List.cons.inj h).1 (hword rfl (by decide))
  · rename_i h
    exact absurd (List.cons.inj h).1 (hword rfl (by decide))
  · -- a minus before a digit begins no word
    rename_i h
    cases h
    rcases hc with hc | hc
    · cases hc
    · cases hc.2 'I' rfl
  · rfl

theorem IsNumeral.reads {v : Value} (h : IsNumeral cs v) : Reads cs v := by
  obtain ⟨c, r, rfl, hspace, hne, hc⟩ : ∃ c r, cs = c :: r ∧ isSpace c = false ∧ c ≠ ']' ∧
      ∀ rest : List Char, c.isDigit ∨ c = '-' ∧ ∀ k ∈ (r ++ rest).head?, k.isDigit := by
    obtain ⟨negative, c, r, rfl, hc⟩ := h.start
    cases negative with
    | true => exact ⟨'-', c :: r, rfl, rfl, by decide, fun rest => .inr ⟨rfl, by simpa using hc⟩⟩
    | false =>
      refine ⟨c, r, rfl, isSpace_of_isDigit hc, ?_, fun rest => .inl hc⟩
      rintro rfl
      cases hc
  refine reads_of_succ hspace hne fun fuel rest hrest => ?_
  have hends : rest.takeWhile isNumberChar = [] ∧ rest.dropWhile isNumberChar = rest := by
    cases rest with
    | nil => exact ⟨rfl, rfl⟩
    | cons k rest => simp [hrest k rfl]
  have hcut : (c :: r ++ rest).takeWhile isNumberChar = c :: r ∧
      (c :: r ++ rest).dropWhile isNumberChar = rest := by
    rw [List.takeWhile_append_of_pos h.chars, List.dropWhile_append_of_pos h.chars, hends.1,
      hends.2, List.append_nil]
    exact ⟨rfl, rfl⟩
  rw [List.cons_append] at hcut ⊢
  rw [readValue_number fuel hspace (hc rest), hcut.1, hcut.2, h.value]

theorem reads_int (n : Int) : Reads (toString n).toList (.int n) := (isNumeral_int n).reads

theorem toList_realText_infinite (negative : Bool) : (realText (.infinite negative)).toList =
    if negative then '-' :: "Infinity".toList else "Infinity".toList := by
  rw [realText, String.toList_append]
  cases negative <;> rfl

theorem reads_real {x : Real} (h : x.IsFloat) : Reads (realText x).toList (.real x) := by
  have hword : "Infinity".toList = ['I', 'n', 'f', 'i', 'n', 'i', 't', 'y'] := rfl
  cases x with
  | nan => exact reads_of_succ rfl (by decide) fun _ _ _ => rfl
  | infinite negative =>
    rw [toList_realText_infinite, hword]
    cases negative <;> exact reads_of_succ rfl (by decide) fun _ _ _ => rfl
  | finite d =>
    have hnumeral := isNumeral_finiteText d
    rw [h.ofDecimal_eq] at hnumeral
    exact hnumeral.reads

theorem endsNumber_comma (rest : List Char) : EndsNumber (',' :: rest) := by
  simp [EndsNumber, isNumberChar]

/-- The elements of a list, up to the bracket that closes it. -/
theorem readItems_intercalate {parts : List (List Char)} {ws : List Value}
    (h : List.Forall₂ Reads parts ws) (hne : parts ≠ []) (fuel : Nat) (rest : List Char)
    (hfuel : 2 * ([','].intercalate parts).length + 1 ≤ fuel) :
    readItems fuel ([','].intercalate parts ++ ']' :: rest) = some (ws, rest) := by
  induction h generalizing fuel with
  | nil => exact absurd rfl hne
  | @cons p w parts ws hp htail ih =>
    obtain ⟨fuel, rfl⟩ := Nat.exists_eq_succ_of_ne_zero (show fuel ≠ 0 by omega)
    cases htail with
    | nil =>
      rw [List.intercalate_singleton] at hfuel ⊢
      rw [readItems, hp.read fuel _ (by omega) (by simp [EndsNumber, isNumberChar])]
      simp only [skipSpace_cons rest (show isSpace ']' = false from rfl)]
    | @cons q w' parts ws hq htail =>
      have hlength : ([','].intercalate (p :: q :: parts)).length =
          p.length + 1 + ([','].intercalate (q :: parts)).length := by
        rw [List.intercalate_cons_cons, List.length_append, List.length_append,
          List.length_singleton]
      rw [hlength] at hfuel
      rw [List.intercalate_cons_cons, List.append_assoc, List.append_assoc, List.singleton_append,
        readItems, hp.read fuel _ (by omega) (endsNumber_comma _)]
      simp only [skipSpace_cons _ (show isSpace ',' = false from rfl),
        ih (List.cons_ne_nil _ _) fuel (by omega), Option.map_some]

/-- Whether a text is read as a member: the name, a colon, and a text that is read as the value. -/
def ReadsMember (cs : List Char) (m : String × Value) : Prop :=
  ∃ p, cs = (stringText m.1).toList ++ ':' :: p ∧ Reads p m.2

variable {fuel : Nat} {name : String} {x : Value} {ms : Members}

/-- The name and the colon of a member are read before its value; the last one is followed by the
brace. -/
theorem readMembers_last (h : readValue fuel cs = some (x, '\x7d' :: rest)) :
    readMembers (fuel + 1) ((stringText name).toList ++ ':' :: cs) = some ([(name, x)], rest) := by
  rw [toList_stringText, readMembers]
  simp only [List.cons_append, List.append_assoc, List.nil_append,
    skipSpace_cons _ (show isSpace '"' = false from rfl), readString_stringText,
    skipSpace_cons _ (show isSpace ':' = false from rfl), h,
    skipSpace_cons _ (show isSpace '\x7d' = false from rfl)]

/-- All others are followed by a comma. -/
theorem readMembers_next (h : readValue fuel cs = some (x, ',' :: r))
    (hr : readMembers fuel r = some (ms, rest)) :
    readMembers (fuel + 1) ((stringText name).toList ++ ':' :: cs) =
      some ((name, x) :: ms, rest) := by
  rw [toList_stringText, readMembers]
  simp only [List.cons_append, List.append_assoc, List.nil_append,
    skipSpace_cons _ (show isSpace '"' = false from rfl), readString_stringText,
    skipSpace_cons _ (show isSpace ':' = false from rfl), h,
    skipSpace_cons _ (show isSpace ',' = false from rfl), hr, Option.map_some]

/-- The members of an object, up to the brace that closes it. -/
theorem readMembers_intercalate {parts : List (List Char)} {ms : Members}
    (h : List.Forall₂ ReadsMember parts ms) (hne : parts ≠ []) (fuel : Nat) (rest : List Char)
    (hfuel : 2 * ([','].intercalate parts).length + 1 ≤ fuel) :
    readMembers fuel ([','].intercalate parts ++ '\x7d' :: rest) = some (ms, rest) := by
  induction h generalizing fuel with
  | nil => exact absurd rfl hne
  | @cons part m parts ms hm htail ih =>
    obtain ⟨fuel, rfl⟩ := Nat.exists_eq_succ_of_ne_zero (show fuel ≠ 0 by omega)
    obtain ⟨p, rfl, hp⟩ := hm
    have hplen : p.length + 4 ≤ ((stringText m.1).toList ++ ':' :: p).length + 1 := by
      rw [toList_stringText]
      simp
    cases htail with
    | nil =>
      rw [List.intercalate_singleton] at hfuel ⊢
      rw [List.append_assoc, List.cons_append]
      exact readMembers_last (hp.read fuel _ (by omega) (by simp [EndsNumber, isNumberChar]))
    | @cons q m' parts ms hq htail =>
      have hlength :
          ([','].intercalate (((stringText m.1).toList ++ ':' :: p) :: q :: parts)).length =
            ((stringText m.1).toList ++ ':' :: p).length + 1 +
              ([','].intercalate (q :: parts)).length := by
        rw [List.intercalate_cons_cons, List.length_append, List.length_append,
          List.length_singleton]
      rw [hlength] at hfuel
      rw [List.intercalate_cons_cons, List.append_assoc, List.append_assoc, List.singleton_append,
        List.append_assoc, List.cons_append]
      exact readMembers_next (hp.read fuel _ (by omega) (endsNumber_comma _))
        (ih (List.cons_ne_nil _ _) fuel (by omega))

theorem reads_arr {parts : List (List Char)} {ws : List Value}
    (h : List.Forall₂ Reads parts ws) :
    Reads ('[' :: ([','].intercalate parts ++ [']'])) (.arr ws) := by
  refine ⟨⟨'[', _, rfl, rfl, by decide⟩, ?_⟩
  intro fuel rest hfuel _
  rw [List.length_cons, List.length_append, List.length_singleton] at hfuel
  obtain ⟨fuel, rfl⟩ := Nat.exists_eq_succ_of_ne_zero (show fuel ≠ 0 by omega)
  rw [List.cons_append, List.append_assoc, List.singleton_append]
  cases h with
  | nil => rfl
  | @cons p w parts ws hp htail =>
    have hitems :=
      readItems_intercalate (.cons hp htail) (List.cons_ne_nil _ _) fuel rest (by omega)
    obtain ⟨c, r, rfl, hspace, hne⟩ := hp.start
    rw [List.intercalate_cons_cons_left, List.cons_append] at hitems ⊢
    rw [readValue, skipSpace_cons _ (show isSpace '[' = false from rfl)]
    simp only [skipSpace_cons _ hspace]
    split
    · rename_i heq
      exact absurd (List.cons.inj heq).1 hne
    · rw [hitems]
      rfl

theorem reads_obj {parts : List (List Char)} {ms : Members}
    (h : List.Forall₂ ReadsMember parts ms) :
    Reads ('\x7b' :: ([','].intercalate parts ++ ['\x7d'])) (.obj ms) := by
  refine ⟨⟨'\x7b', _, rfl, rfl, by decide⟩, ?_⟩
  intro fuel rest hfuel _
  rw [List.length_cons, List.length_append, List.length_singleton] at hfuel
  obtain ⟨fuel, rfl⟩ := Nat.exists_eq_succ_of_ne_zero (show fuel ≠ 0 by omega)
  rw [List.cons_append, List.append_assoc, List.singleton_append]
  cases h with
  | nil => rfl
  | @cons part m parts ms hm htail =>
    have hmembers :=
      readMembers_intercalate (.cons hm htail) (List.cons_ne_nil _ _) fuel rest (by omega)
    obtain ⟨p, rfl, -⟩ := hm
    rw [toList_stringText, List.cons_append, List.intercalate_cons_cons_left,
      List.cons_append] at hmembers ⊢
    rw [readValue, skipSpace_cons _ (show isSpace '\x7b' = false from rfl)]
    simp only [skipSpace_cons _ (show isSpace '"' = false from rfl)]
    split
    · rename_i heq
      cases heq
    · rw [hmembers]
      rfl

end Conform.Json

namespace Conform.Value

/-- Whether a value is one of a document: nothing foreign is in it, and its real numbers are
floating-point ones. -/
inductive IsJson : Value → Prop
  | null : IsJson .null
  | bool (b : Bool) : IsJson (.bool b)
  | int (n : Int) : IsJson (.int n)
  | real {x : Real} (h : x.IsFloat) : IsJson (.real x)
  | str (s : String) : IsJson (.str s)
  | arr {xs : List Value} (h : ∀ x ∈ xs, IsJson x) : IsJson (.arr xs)
  | obj {ms : Members} (h : ∀ m ∈ ms, IsJson m.2) : IsJson (.obj ms)

end Conform.Value

namespace Conform.Json

theorem writeList_eq_map (foreign : Value → String) (xs : List Value) :
    writeList foreign xs = xs.map (write foreign) := by
  induction xs with
  | nil => rfl
  | cons x xs ih => rw [writeList, ih, List.map_cons]

theorem writeMembers_eq_map (foreign : Value → String) (ms : Members) :
    writeMembers foreign ms = ms.map fun m => (m.1, write foreign m.2) := by
  induction ms with
  | nil => rfl
  | cons m ms ih => rw [writeMembers, ih, List.map_cons]

theorem toList_enclosed (a b : String) (parts : List String) : (enclosed a b parts).toList =
    a.toList ++ ([','].intercalate (parts.map String.toList) ++ b.toList) := by
  rw [enclosed, String.toList_append, String.toList_append, String.toList_intercalate,
    List.append_assoc]
  rfl

theorem toList_compact_arr (xs : List Value) : (compact (.arr xs)).toList =
    '[' :: ([','].intercalate (xs.map fun x => (compact x).toList) ++ [']']) := by
  rw [compact, write, writeList_eq_map, toList_enclosed, List.map_map]
  rfl

/-- An object is written with its members in the order of their names. -/
theorem toList_compact_obj (ms : Members) : (compact (.obj ms)).toList =
    '\x7b' :: ([','].intercalate (ms.sorted.map fun m =>
      (stringText m.1).toList ++ ':' :: (compact m.2).toList) ++ ['\x7d']) := by
  have hsorted : ((ms.map fun m => (m.1, write Value.text m.2)).mergeSort
      fun a b => !decide (b.1 < a.1)) = ms.sorted.map fun m => (m.1, compact m.2) := by
    refine (List.map_mergeSort ?_).symm
    intro a _ b _
    rfl
  rw [compact, write, writeMembers_eq_map, hsorted, toList_enclosed, List.map_map, List.map_map]
  have hparts : ((String.toList ∘ fun m : String × String => stringText m.1 ++ ":" ++ m.2) ∘
      fun m : String × Value => (m.1, compact m.2)) =
        fun m => (stringText m.1).toList ++ ':' :: (compact m.2).toList := by
    funext m
    simp [String.toList_append]
  rw [hparts]
  rfl

theorem rearranged_sorted {ms : Members} (h : (Value.obj ms).Distinct) :
    (Value.obj ms).Rearranged (.obj ms.sorted) := by
  refine .object h.nodup (Members.keys_sorted_perm ms).symm ?_
  intro k x y hx hy
  rw [Members.get?_sorted h.nodup, hx] at hy
  obtain rfl := Option.some.inj hy
  exact (h.of_get? hx).rearranged

/-- What is written for a value is read as that value with its members in another order. -/
theorem reads_compact {v : Value} (h : v.IsJson) (hd : v.Distinct) :
    ∃ w, v.Rearranged w ∧ Reads (compact v).toList w := by
  induction h with
  | null => exact ⟨_, .leaf rfl, reads_null⟩
  | bool b => exact ⟨_, .leaf rfl, reads_bool b⟩
  | int n => exact ⟨_, .leaf rfl, reads_int n⟩
  | real h => exact ⟨_, .leaf rfl, reads_real h⟩
  | str s => exact ⟨_, .leaf rfl, reads_str s⟩
  | @arr xs _ ih =>
    -- `f` gives what each element is read back as
    choose! f hf using fun x hx => ih x hx (hd.of_mem_arr hx)
    refine ⟨.arr (xs.map f), .list (List.length_map f).symm ?_, ?_⟩
    · intro i x y hx hy
      rw [List.getElem?_map, hx] at hy
      obtain rfl := Option.some.inj hy
      exact (hf x (List.mem_of_getElem? hx)).1
    · rw [toList_compact_arr]
      refine reads_arr ?_
      rw [List.forall₂_map_left_iff, List.forall₂_map_right_iff, List.forall₂_same]
      exact fun x hx => (hf x hx).2
  | @obj ms _ ih =>
    -- what is read has the members as they are written, in the order of their names
    choose! f hf using fun m hm => ih m hm (hd.of_mem hm)
    let ws : Members := ms.sorted.map fun m => (m.1, f m)
    have hmem {m : String × Value} (hm : m ∈ ms.sorted) : m ∈ ms :=
      (Members.sorted_perm ms).mem_iff.mp hm
    have hfills : Members.Fills Value.Rearranged ms.sorted ws := by
      refine ⟨ws, .refl _, ?_⟩
      rw [List.forall₂_map_right_iff, List.forall₂_same]
      exact fun m hm => ⟨rfl, (hf m (hmem hm)).1⟩
    refine ⟨.obj ws, ?_, ?_⟩
    · exact (rearranged_sorted hd).trans
        (Members.rearranged_iff_fills.mpr ⟨Members.nodup_sorted hd.nodup, hfills⟩)
    · rw [toList_compact_obj]
      refine reads_obj ?_
      rw [List.forall₂_map_left_iff, List.forall₂_map_right_iff, List.forall₂_same]
      exact fun m hm => ⟨_, rfl, (hf m (hmem hm)).2⟩

/-- Reading what was written gives the value back, up to the order of members. -/
theorem read?_compact {v : Value} (h : v.IsJson) (hd : v.Distinct) :
    ∃ w, read? (compact v) = some w ∧ v.Rearranged w := by
  obtain ⟨w, hw, hreads⟩ := reads_compact h hd
  have hread := hreads.read (2 * (compact v).toList.length + 2) [] (by omega) (by simp [EndsNumber])
  rw [List.append_nil] at hread
  refine ⟨w, ?_, hw⟩
  simp only [read?, hread]
  rfl

/-- Whether no control character is in a text, a line break least of all. -/
def Visible (cs : List Char) : Prop := ∀ c ∈ cs, 32 ≤ c.toNat

theorem Visible.of_all (h : (cs.all fun c => decide (32 ≤ c.toNat)) = true) : Visible cs :=
  fun c hc => of_decide_eq_true (List.all_eq_true.mp h c hc)

theorem Visible.append (h : Visible cs) (h' : Visible r) : Visible (cs ++ r) := by
  intro c hc
  exact (List.mem_append.mp hc).elim (h c) (h' c)

theorem Visible.cons (hc : 32 ≤ c.toNat) (h : Visible cs) : Visible (c :: cs) := by
  intro k hk
  rcases List.mem_cons.mp hk with rfl | hk
  · exact hc
  · exact h k hk

theorem Visible.intercalate {parts : List (List Char)} (h : ∀ p ∈ parts, Visible p) :
    Visible ([','].intercalate parts) := by
  induction parts with
  | nil => intro c hc; cases hc
  | cons p parts ih =>
    have hp := h p List.mem_cons_self
    have htail := ih fun q hq => h q (List.mem_cons_of_mem _ hq)
    cases parts with
    | nil =>
      rw [List.intercalate_singleton]
      exact hp
    | cons q parts =>
      rw [List.intercalate_cons_cons, List.append_assoc]
      exact hp.append (.cons (by decide) htail)

theorem visible_of_numberChars (h : ∀ c ∈ cs, isNumberChar c) : Visible cs := by
  intro c hc
  have hc := h c hc
  simp only [isNumberChar, Bool.or_eq_true, beq_iff_eq] at hc
  rcases hc with ((((hc | rfl) | rfl) | rfl) | rfl) | rfl
  · have hdigit := (Char.isDigit_iff_toNat.mp hc).1
    simp at hdigit
    omega
  all_goals decide

theorem visible_escaped (c : Char) : Visible (escaped c) := by
  intro k hk
  rcases escaped_eq c with ⟨-, -, hle, hc⟩ | ⟨e, -, hle, -, hc⟩ | ⟨hlt, hc⟩
  · rw [hc, List.mem_singleton] at hk
    rwa [hk]
  · rw [hc] at hk
    rcases List.mem_cons.mp hk with rfl | hk
    · decide
    · rwa [List.mem_singleton.mp hk]
  · have hdigits : ∀ n < 32, ('\\' :: 'u' :: Text.hexDigits 4 n).all
        (fun k => decide (32 ≤ k.toNat)) = true := by decide
    exact Visible.of_all (hdigits c.toNat hlt) k (hc ▸ hk)

theorem visible_stringText (s : String) : Visible (stringText s).toList := by
  rw [toList_stringText]
  refine .cons (by decide) (.append ?_ (.cons (by decide) (by intro c hc; cases hc)))
  intro k hk
  obtain ⟨c, -, hk⟩ := List.mem_flatMap.mp hk
  exact visible_escaped c k hk

theorem visible_realText (x : Real) : Visible (realText x).toList := by
  cases x with
  | nan => exact .of_all (by decide)
  | infinite negative =>
    have hword : Visible "Infinity".toList := .of_all (by decide)
    rw [toList_realText_infinite]
    cases negative
    · exact hword
    · exact .cons (by decide) hword
  | finite d => exact visible_of_numberChars (isNumeral_finiteText d).chars

/-- JSON text stands on one line. -/
theorem visible_compact {v : Value} (h : v.IsJson) : Visible (compact v).toList := by
  have hnil : Visible [] := by
    intro c hc
    cases hc
  induction h with
  | null => exact .of_all (by decide)
  | bool b =>
    cases b
    · exact .of_all (by decide)
    · exact .of_all (by decide)
  | int n => exact visible_of_numberChars (isNumeral_int n).chars
  | real _ => exact visible_realText _
  | str s => exact visible_stringText s
  | @arr xs _ ih =>
    rw [toList_compact_arr]
    refine .cons (by decide) (.append (.intercalate ?_) (.cons (by decide) hnil))
    intro p hp
    obtain ⟨x, hx, rfl⟩ := List.mem_map.mp hp
    exact ih x hx
  | @obj ms _ ih =>
    rw [toList_compact_obj]
    refine .cons (by decide) (.append (.intercalate ?_) (.cons (by decide) hnil))
    intro p hp
    obtain ⟨m, hm, rfl⟩ := List.mem_map.mp hp
    have hmem : m ∈ ms := (Members.sorted_perm ms).mem_iff.mp hm
    exact (visible_stringText m.1).append (.cons (by decide) (ih m hmem))

theorem refusalsOfMembers_eq_map (ms : Members) :
    refusalsOfMembers ms = ms.map fun m => (m.1, refusal m.2) := by
  induction ms with
  | nil => rfl
  | cons m ms ih => rw [refusalsOfMembers, ih, List.map_cons]

/-- An object has a text if all of its members have one. -/
theorem refusal_obj_eq_none {ms : Members} :
    refusal (.obj ms) = none ↔ ∀ m ∈ ms, refusal m.2 = none := by
  rw [refusal, refusalsOfMembers_eq_map, List.findSome?_eq_none_iff]
  simp only [List.mem_mergeSort, List.mem_map]
  constructor
  · intro h m hm
    exact h _ ⟨m, hm, rfl⟩
  · rintro h _ ⟨m, hm, rfl⟩
    exact h m hm

/-- A list has a text if all of its elements have one. -/
theorem refusal_arr_eq_none {xs : List Value} :
    refusal (.arr xs) = none ↔ ∀ x ∈ xs, refusal x = none := by
  rw [refusal]
  induction xs with
  | nil => simp [refusalOfList]
  | cons x xs ih =>
    rw [refusalOfList, List.forall_mem_cons, ← ih]
    cases refusal x <;> simp

theorem text_eq_ok {v : Value} {s : String} :
    text v = .ok s ↔ refusal v = none ∧ s = compact v := by
  unfold text
  cases refusal v <;> simp [eq_comm]

end Conform.Json
