import Conform.Log.Normal
import Conform.Proofs.JsonText
import Conform.Proofs.Quotation

/-!
Literals tell plain values apart. A text that begins with the literal of a plain value, and does
not go on inside of it, begins with the literal of no other one; so plain values that are sorted
by their literals come in one order only.
-/
namespace Conform.Value

/-- A value of a document: its real numbers are floating-point ones and finite, and no object in
it has a name twice. -/
inductive IsPlain : Value → Prop
  | null : IsPlain .null
  | bool (b : Bool) : IsPlain (.bool b)
  | int (n : Int) : IsPlain (.int n)
  | real {d : Decimal} (h : (Real.finite d).IsFloat) : IsPlain (.real (.finite d))
  | str (s : String) : IsPlain (.str s)
  | arr {xs : List Value} (h : ∀ x ∈ xs, IsPlain x) : IsPlain (.arr xs)
  | obj {ms : Members} (hn : (Members.keys ms).Nodup) (h : ∀ m ∈ ms, IsPlain m.2) :
      IsPlain (.obj ms)

variable {v w : Value} {r t : List Char}

/-- Whether a text goes on as it may behind a literal. -/
def EndsLiteral (rest : List Char) : Prop := ∀ c ∈ rest.head?, c = ',' ∨ c = ']' ∨ c = '\x7d'

theorem EndsLiteral.endsNumber (h : EndsLiteral r) : Json.EndsNumber r := by
  intro c hc
  rcases h c hc with rfl | rfl | rfl <;> rfl

theorem endsLiteral_cons {c : Char} (h : c = ',' ∨ c = ']' ∨ c = '\x7d') (r : List Char) :
    EndsLiteral (c :: r) := by
  intro d hd
  obtain rfl : c = d := Option.some.inj hd
  exact h

/-- Whether what `f` writes for `x` tells it among all that have the property, and where it
ends. -/
def Told {α : Type} (f : α → List Char) (P : α → Prop) (x : α) : Prop :=
  ∀ y, P y → ∀ r t, EndsLiteral r → EndsLiteral t → f x ++ r = f y ++ t → x = y ∧ r = t

section Listed

variable {α : Type} {f : α → List Char} {P : α → Prop} {xs ys : List α} {close : Char}

theorem intercalate_cons_append (p : List Char) (ps : List (List Char)) (t : List Char) :
    [',', ' '].intercalate (p :: ps) ++ t =
      p ++ if ps = [] then t else ',' :: ' ' :: ([',', ' '].intercalate ps ++ t) := by
  cases ps with
  | nil => simp
  | cons q ps => simp [List.intercalate_cons_cons]

/-- A list is told by its elements and the bracket that closes it. -/
theorem intercalate_append_inj (hclose : close = ']' ∨ close = '\x7d')
    (hstart : ∀ x, P x → ∃ c r, f x = c :: r ∧ c ≠ close)
    (hP : ∀ x ∈ xs, P x) (hx : ∀ x ∈ xs, Told f P x) (hy : ∀ y ∈ ys, P y)
    (h : [',', ' '].intercalate (xs.map f) ++ close :: r =
      [',', ' '].intercalate (ys.map f) ++ close :: t) : xs = ys ∧ r = t := by
  have hopen {x : α} (hx : P x) (xs : List α) (r t : List Char) :
      close :: r ≠ [',', ' '].intercalate ((x :: xs).map f) ++ t := by
    obtain ⟨c, rest, hc, hne⟩ := hstart x hx
    rw [List.map_cons, intercalate_cons_append, hc, List.cons_append]
    intro h
    exact hne (List.cons.inj h).1.symm
  have hcomma : close ≠ ',' := by rcases hclose with rfl | rfl <;> decide
  have hends (ps : List (List Char)) (t : List Char) : EndsLiteral
      (if ps = [] then close :: t
        else ',' :: ' ' :: ([',', ' '].intercalate ps ++ close :: t)) := by
    split
    · exact endsLiteral_cons (.inr hclose) _
    · exact endsLiteral_cons (.inl rfl) _
  induction xs generalizing ys with
  | nil =>
    cases ys with
    | nil => exact ⟨rfl, (List.cons.inj h).2⟩
    | cons y ys => exact absurd h (hopen (hy y List.mem_cons_self) ys r _)
  | cons x xs ih =>
    cases ys with
    | nil => exact absurd h.symm (hopen (hP x List.mem_cons_self) xs t _)
    | cons y ys =>
      rw [List.map_cons, List.map_cons, intercalate_cons_append, intercalate_cons_append] at h
      obtain ⟨rfl, hbehind⟩ := hx x List.mem_cons_self y (hy y List.mem_cons_self) _ _
        (hends _ _) (hends _ _) h
      -- behind equal elements stands the bracket in both texts, or a comma in both
      cases xs with
      | nil =>
        cases ys with
        | nil => exact ⟨rfl, (List.cons.inj hbehind).2⟩
        | cons y' ys => exact absurd (List.cons.inj hbehind).1 hcomma
      | cons x' xs =>
        cases ys with
        | nil => exact absurd (List.cons.inj hbehind).1.symm hcomma
        | cons y' ys =>
          have hrest := (List.cons.inj (List.cons.inj hbehind).2).2
          obtain ⟨htail, hr⟩ := ih (fun z hz => hP z (List.mem_cons_of_mem x hz))
            (fun z hz => hx z (List.mem_cons_of_mem x hz))
            (fun z hz => hy z (List.mem_cons_of_mem x hz)) hrest
          exact ⟨by rw [htail], hr⟩

end Listed

theorem literalList_eq_map (xs : List Value) : literalList xs = xs.map literal := by
  induction xs with
  | nil => rfl
  | cons x xs ih => rw [literalList, ih, List.map_cons]

theorem literalMembers_eq_map (ms : Members) :
    literalMembers ms = ms.map fun m => Text.quoted m.1 ++ ": " ++ m.2.literal := by
  induction ms with
  | nil => rfl
  | cons m ms ih => rw [literalMembers, ih, List.map_cons]

theorem toList_joined (a b : String) (parts : List String) : (joined a b parts).toList =
    a.toList ++ ([',', ' '].intercalate (parts.map String.toList) ++ b.toList) := by
  rw [joined, String.toList_append, String.toList_append, String.toList_intercalate,
    List.append_assoc]
  rfl

theorem toList_literal_arr (xs : List Value) : (arr xs).literal.toList =
    '[' :: ([',', ' '].intercalate (xs.map fun x => x.literal.toList) ++ [']']) := by
  rw [literal, literalList_eq_map, toList_joined, List.map_map]
  rfl

/-- A member in the literal of its object. -/
def memberText (m : String × Value) : List Char :=
  (Text.quoted m.1).toList ++ ':' :: ' ' :: m.2.literal.toList

theorem toList_literal_obj (ms : Members) : (obj ms).literal.toList =
    '\x7b' :: ([',', ' '].intercalate (ms.map memberText) ++ ['\x7d']) := by
  have hparts : (String.toList ∘ fun m : String × Value =>
      Text.quoted m.1 ++ ": " ++ m.2.literal) = memberText := by
    funext m
    simp [memberText, String.toList_append]
  rw [literal, literalMembers_eq_map, toList_joined, List.map_map, hparts]
  rfl

/-- The kind that the first character of a literal shows. -/
def leadKind (c : Char) : Kind :=
  if c = 'N' then .null
  else if c = 'T' ∨ c = 'F' then .boolean
  else if c = '\'' ∨ c = '"' then .string
  else if c = '[' then .array
  else if c = '\x7b' then .object
  else .number

/-- The kind of a plain value as its literal begins; integers begin as all numbers do. -/
def shownKind : Value → Kind
  | .null => .null
  | .bool _ => .boolean
  | .int _ | .real _ => .number
  | .str _ => .string
  | .arr _ => .array
  | _ => .object

theorem isNumeral_lead {cs : List Char} (h : Json.IsNumeral cs v) :
    ∃ c r, cs = c :: r ∧ leadKind c = .number ∧ c ≠ ']' ∧ c ≠ '\x7d' := by
  obtain ⟨negative, c, r, rfl, hc⟩ := h.start
  cases negative with
  | true => exact ⟨'-', c :: r, rfl, by decide, by decide, by decide⟩
  | false =>
    have hne {k : Char} (hk : k.isDigit = false) : c ≠ k := by
      rintro rfl
      exact Bool.false_ne_true (hk.symm.trans hc)
    refine ⟨c, r, rfl, ?_, hne rfl, hne rfl⟩
    simp [leadKind, hne (k := 'N') rfl, hne (k := 'T') rfl, hne (k := 'F') rfl,
      hne (k := '\'') rfl, hne (k := '"') rfl, hne (k := '[') rfl, hne (k := '\x7b') rfl]

theorem isNumeral_literal_real {d : Decimal} (h : (Real.finite d).IsFloat) :
    Json.IsNumeral (real (.finite d)).literal.toList (.real (.finite d)) := by
  have hnumeral := Json.isNumeral_finiteText d
  rw [h.ofDecimal_eq] at hnumeral
  exact hnumeral

theorem quoted_lead (s : String) (t : List Char) : ∃ c r, (Text.quoted s).toList ++ t = c :: r ∧
    leadKind c = .string ∧ c ≠ ']' ∧ c ≠ '\x7d' := by
  rw [Text.toList_quoted, List.cons_append]
  refine ⟨_, _, rfl, ?_⟩
  rcases Text.quoteMark_eq s.toList with h | h <;> rw [h] <;> decide

theorem IsPlain.lead (h : v.IsPlain) : ∃ c r, v.literal.toList = c :: r ∧
    leadKind c = v.shownKind ∧ c ≠ ']' ∧ c ≠ '\x7d' := by
  cases h with
  | null => exact ⟨'N', _, rfl, by decide, by decide, by decide⟩
  | bool b =>
    cases b
    · exact ⟨'F', _, rfl, by decide, by decide, by decide⟩
    · exact ⟨'T', _, rfl, by decide, by decide, by decide⟩
  | int n => exact isNumeral_lead (Json.isNumeral_int n)
  | real h => exact isNumeral_lead (isNumeral_literal_real h)
  | str s =>
    obtain ⟨c, r, hs, hc⟩ := quoted_lead s []
    rw [List.append_nil] at hs
    exact ⟨c, r, hs, hc⟩
  | arr _ => exact ⟨'[', _, toList_literal_arr _, rfl, by decide, by decide⟩
  | obj _ _ => exact ⟨'\x7b', _, toList_literal_obj _, rfl, by decide, by decide⟩

/-- Numbers are told by all of their characters. -/
theorem isNumeral_append_inj {cs ds : List Char} (hv : Json.IsNumeral cs v)
    (hw : Json.IsNumeral ds w) (hr : EndsLiteral r) (ht : EndsLiteral t)
    (h : cs ++ r = ds ++ t) : v = w ∧ r = t := by
  have hcut {cs r : List Char} {v : Value} (hv : Json.IsNumeral cs v) (hr : EndsLiteral r) :
      (cs ++ r).takeWhile Json.isNumberChar = cs := by
    rw [List.takeWhile_append_of_pos hv.chars]
    cases r with
    | nil => simp
    | cons c r => simp [hr.endsNumber c rfl]
  have htaken := congrArg (List.takeWhile Json.isNumberChar) h
  rw [hcut hv hr, hcut hw ht] at htaken
  subst htaken
  exact ⟨Option.some.inj (hv.value.symm.trans hw.value), List.append_cancel_left h⟩

/-- Literals that begin alike are literals of one kind. -/
theorem IsPlain.shownKind_eq (hv : v.IsPlain) (hw : w.IsPlain)
    (h : v.literal.toList ++ r = w.literal.toList ++ t) : v.shownKind = w.shownKind := by
  obtain ⟨c, cs, hc, hkind, -⟩ := hv.lead
  obtain ⟨d, ds, hd, hkind', -⟩ := hw.lead
  rw [hc, hd, List.cons_append, List.cons_append] at h
  rw [← hkind, ← hkind', (List.cons.inj h).1]

theorem told_memberText {m : String × Value}
    (h : Told (fun x : Value => x.literal.toList) IsPlain m.2) :
    Told memberText (fun m => m.2.IsPlain) m := by
  intro n hn r t hr ht heq
  rw [memberText, memberText, List.append_assoc, List.append_assoc] at heq
  obtain ⟨hname, hrest⟩ := Text.quoted_append_inj heq
  obtain ⟨hvalue, hrt⟩ := h n.2 hn r t hr ht (List.cons.inj (List.cons.inj hrest).2).2
  exact ⟨Prod.ext hname hvalue, hrt⟩

/-- The induction is on the value; the other value is of the same kind, or its literal begins
otherwise. -/
theorem IsPlain.told (hv : v.IsPlain) : Told (fun x : Value => x.literal.toList) IsPlain v := by
  induction hv with
  | null =>
    intro w hw r t _ _ h
    have hkind := IsPlain.null.shownKind_eq hw h
    cases hw with
    | null => exact ⟨rfl, List.append_cancel_left h⟩
    | _ => cases hkind
  | bool b =>
    intro w hw r t _ _ h
    have hkind := (IsPlain.bool b).shownKind_eq hw h
    cases hw with
    | bool c =>
      cases b <;> cases c
      · exact ⟨rfl, List.append_cancel_left h⟩
      · cases (List.cons.inj h).1
      · cases (List.cons.inj h).1
      · exact ⟨rfl, List.append_cancel_left h⟩
    | _ => cases hkind
  | int n =>
    intro w hw r t hr ht h
    have hkind := (IsPlain.int n).shownKind_eq hw h
    have hn := Json.isNumeral_int n
    cases hw with
    | int k => exact isNumeral_append_inj hn (Json.isNumeral_int k) hr ht h
    | real hk => exact isNumeral_append_inj hn (isNumeral_literal_real hk) hr ht h
    | _ => cases hkind
  | real hd =>
    intro w hw r t hr ht h
    have hkind := (IsPlain.real hd).shownKind_eq hw h
    have hn := isNumeral_literal_real hd
    cases hw with
    | int k => exact isNumeral_append_inj hn (Json.isNumeral_int k) hr ht h
    | real hk => exact isNumeral_append_inj hn (isNumeral_literal_real hk) hr ht h
    | _ => cases hkind
  | str s =>
    intro w hw r t _ _ h
    have hkind := (IsPlain.str s).shownKind_eq hw h
    cases hw with
    | str s' =>
      obtain ⟨hs, hrt⟩ := Text.quoted_append_inj h
      exact ⟨by rw [hs], hrt⟩
    | _ => cases hkind
  | @arr xs hxs ih =>
    intro w hw r t _ _ h
    have hkind := (IsPlain.arr hxs).shownKind_eq hw h
    cases hw with
    | arr hys =>
      simp only [toList_literal_arr, List.cons_append, List.append_assoc,
        List.nil_append] at h
      have hstart : ∀ x : Value, x.IsPlain → ∃ c r, x.literal.toList = c :: r ∧ c ≠ ']' := by
        intro x hx
        obtain ⟨c, r, hc, -, hne, -⟩ := hx.lead
        exact ⟨c, r, hc, hne⟩
      obtain ⟨hlist, hrt⟩ :=
        intercalate_append_inj (.inl rfl) hstart hxs ih hys (List.cons.inj h).2
      exact ⟨by rw [hlist], hrt⟩
    | _ => cases hkind
  | @obj ms hn hms ih =>
    intro w hw r t _ _ h
    have hkind := (IsPlain.obj hn hms).shownKind_eq hw h
    cases hw with
    | obj _ hns =>
      simp only [toList_literal_obj, List.cons_append, List.append_assoc,
        List.nil_append] at h
      have hstart : ∀ m : String × Value, m.2.IsPlain →
          ∃ c r, memberText m = c :: r ∧ c ≠ '\x7d' := by
        intro m _
        obtain ⟨c, r, hc, -, -, hne⟩ := quoted_lead m.1 (':' :: ' ' :: m.2.literal.toList)
        exact ⟨c, r, hc, hne⟩
      obtain ⟨hlist, hrt⟩ := intercalate_append_inj (.inr rfl) hstart hms
        (fun m hm => told_memberText (ih m hm)) hns (List.cons.inj h).2
      exact ⟨by rw [hlist], hrt⟩
    | _ => cases hkind

/-- Plain values of one literal are one value. -/
theorem IsPlain.literal_inj (hv : v.IsPlain) (hw : w.IsPlain) (h : v.literal = w.literal) :
    v = w := by
  have hnil : EndsLiteral [] := by
    intro c hc
    cases hc
  refine (hv.told w hw [] [] hnil hnil ?_).1
  simp only [h]

/-- Sorting leaves no trace of the order in which plain values came. -/
theorem sortedByLiteral_eq_of_perm {xs ys : List Value} (hxs : ∀ x ∈ xs, x.IsPlain)
    (h : xs.Perm ys) : sortedByLiteral xs = sortedByLiteral ys := by
  have hle (a b : Value) : (!decide (b.literal < a.literal)) = true ↔ a.literal ≤ b.literal := by
    rw [Bool.not_eq_true', decide_eq_false_iff_not, String.not_lt]
  have hsorted (zs : List Value) :
      (sortedByLiteral zs).Pairwise fun a b => a.literal ≤ b.literal := by
    refine (List.pairwise_mergeSort ?_ ?_ zs).imp fun {a b} => (hle a b).mp
    · intro a b c hab hbc
      exact (hle a c).mpr (String.le_trans ((hle a b).mp hab) ((hle b c).mp hbc))
    · intro a b
      rw [Bool.or_eq_true, hle, hle]
      exact String.le_total a.literal b.literal
  have hperm : (sortedByLiteral xs).Perm (sortedByLiteral ys) :=
    calc (sortedByLiteral xs).Perm xs := List.mergeSort_perm xs _
      List.Perm _ ys := h
      List.Perm _ (sortedByLiteral ys) := (List.mergeSort_perm ys _).symm
  refine hperm.eq_of_pairwise ?_ (hsorted xs) (hsorted ys)
  intro a b ha hb hab hba
  have hplain {z : Value} (hz : z ∈ xs) : z.IsPlain := hxs z hz
  exact (hplain (List.mem_mergeSort.mp ha)).literal_inj
    (hplain (h.mem_iff.mpr (List.mem_mergeSort.mp hb))) (String.le_antisymm hab hba)

end Conform.Value
