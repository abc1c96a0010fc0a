import Conform.Proofs.Collapse
import Conform.Proofs.Escaping
import Conform.Proofs.Rolls
import Mathlib.Order.Defs.Unbundled

/-!
Ancestors and the regions that are marked. A pointer lies at or below another one exactly if its
text is that of the other one, or goes on behind it with a slash: escaped tokens hold no slash, so
the slashes of a text are where its tokens begin. Being at or above is a partial order on pointers,
on locations and on regions, and the two sorts of regions are never nested. What is ignored, after
any marks, is what lies in a region that was marked.
-/
namespace Conform

namespace Pointer

variable {p q r : Pointer}

theorem escape_injective : Function.Injective escape := by
  intro cs ds h
  have hcs := unescape_escape cs
  rw [h, unescape_escape] at hcs
  exact (Option.some.inj hcs).symm

/-- What stands behind the first token of a text begins with a slash, if it is anything. -/
theorem textChars_begins (ts : List String) :
    textChars ts = [] ∨ ∃ cs, textChars ts = '/' :: cs := by
  cases ts with
  | nil => exact .inl rfl
  | cons t ts => exact .inr ⟨_, textChars_cons t ts⟩

/-- Two texts that have no slash and are followed by one are the same if the wholes are. -/
theorem append_slash_inj {cs ds xs ys : List Char} (hcs : '/' ∉ cs) (hds : '/' ∉ ds)
    (h : cs ++ '/' :: xs = ds ++ '/' :: ys) : cs = ds ∧ xs = ys := by
  induction cs generalizing ds with
  | nil =>
    cases ds with
    | nil => exact ⟨rfl, (List.cons.inj h).2⟩
    | cons d ds => exact absurd (List.cons.inj h).1 (List.ne_of_not_mem_cons hds)
  | cons c cs ih =>
    cases ds with
    | nil => exact absurd (List.cons.inj h).1.symm (List.ne_of_not_mem_cons hcs)
    | cons d ds =>
      obtain ⟨rfl, hrest⟩ := List.cons.inj h
      obtain ⟨rfl, hxs⟩ := ih (List.not_mem_of_not_mem_cons hcs)
        (List.not_mem_of_not_mem_cons hds) hrest
      exact ⟨rfl, hxs⟩

/-- A text that goes on with a slash behind that of some tokens is the text of tokens that begin
with them. -/
theorem prefix_of_textChars {ts us : List String} {rest : List Char}
    (h : textChars us = textChars ts ++ '/' :: rest) : ts <+: us := by
  induction ts generalizing us with
  | nil => exact List.nil_prefix
  | cons t ts ih =>
    cases us with
    | nil => cases h
    | cons u us =>
      rw [textChars_cons, textChars_cons, List.cons_append, List.cons.injEq, List.append_assoc] at h
      obtain ⟨xs, hxs⟩ : ∃ xs, textChars ts ++ '/' :: rest = '/' :: xs := by
        rcases textChars_begins ts with hts | ⟨cs, hts⟩
        · exact ⟨rest, by rw [hts, List.nil_append]⟩
        · exact ⟨cs ++ '/' :: rest, by rw [hts, List.cons_append]⟩
      rcases textChars_begins us with hus | ⟨ys, hus⟩
      · -- the last token would hold the slash that follows `t`
        rw [hus, List.append_nil, hxs] at h
        exact absurd (h.2 ▸ List.mem_append_right _ List.mem_cons_self)
          (slash_not_mem_escape u.toList)
      · have hsame := h.2
        rw [hus, hxs] at hsame
        obtain ⟨htoken, hrest⟩ := append_slash_inj (slash_not_mem_escape _)
          (slash_not_mem_escape _) hsame
        obtain rfl := String.toList_inj.mp (escape_injective htoken)
        refine List.cons_prefix_cons.mpr ⟨rfl, ih ?_⟩
        rw [hus, hxs, hrest]

theorem isParentOf_iff : p.isParentOf q = true ↔ p.tokens <+: q.tokens := by
  simp [isParentOf]

/-- A pointer lies at or below another one exactly if its text is the same, or goes on with a slash
behind the text of the other one. -/
theorem isParentOf_iff_text :
    p.isParentOf q = true ↔ q.text = p.text ∨ ∃ rest, q.text = p.text ++ "/" ++ rest := by
  rw [isParentOf_iff]
  constructor
  · rintro ⟨ts, hts⟩
    have htext : q.text.toList = p.text.toList ++ textChars ts := by
      rw [text, text, String.toList_ofList, String.toList_ofList, ← hts, textChars,
        List.flatMap_append]
      rfl
    rcases textChars_begins ts with hnil | ⟨cs, hcs⟩
    · left
      rw [hnil, List.append_nil] at htext
      exact String.toList_inj.mp htext
    · right
      refine ⟨String.ofList cs, String.toList_inj.mp ?_⟩
      rw [htext, hcs, String.toList_append, String.toList_append, String.toList_ofList,
        String.toList_ofList, List.append_assoc]
      rfl
  · rintro (h | ⟨rest, h⟩)
    · exact text_injective h ▸ List.prefix_rfl
    · have htext := congrArg String.toList h
      rw [String.toList_append, String.toList_append, text, text, String.toList_ofList,
        String.toList_ofList, List.append_assoc] at htext
      exact prefix_of_textChars htext

theorem isPartialOrder : IsPartialOrder Pointer fun p q => p.isParentOf q = true where
  refl p := isParentOf_iff.mpr List.prefix_rfl
  trans p q r hpq hqr := isParentOf_iff.mpr
    ((isParentOf_iff.mp hpq).trans (isParentOf_iff.mp hqr))
  antisymm p q hpq hqp := by
    have htokens := (isParentOf_iff.mp hpq).eq_of_length_le (isParentOf_iff.mp hqp).length_le
    exact congrArg Pointer.mk htokens

end Pointer

namespace Location

theorem isPartialOrder : IsPartialOrder Location fun a b => a.isParentOf b = true where
  refl := isParentOf_refl
  trans _ _ _ := isParentOf_trans
  antisymm a b hab hba := by
    obtain ⟨huri, hpointer⟩ := isParentOf_iff.mp hab
    have hpointers := Pointer.isPartialOrder.antisymm a.pointer b.pointer
      (Pointer.isParentOf_iff.mpr hpointer) (Pointer.isParentOf_iff.mpr (isParentOf_iff.mp hba).2)
    change Location.mk a.uri a.pointer = Location.mk b.uri b.pointer
    rw [huri, hpointers]

end Location

namespace Region

variable {x y z : Region}

/-- Regions that are nested are of one sort, and nested as the pointers or the locations are. -/
theorem isParentOf_cases (h : x.isParentOf y = true) :
    (∃ p q : Pointer, x = .pointer p ∧ y = .pointer q ∧ p.isParentOf q = true) ∨
      ∃ a b : Location, x = .location a ∧ y = .location b ∧ a.isParentOf b = true := by
  cases x with
  | pointer p =>
    cases y with
    | pointer q => exact .inl ⟨p, q, rfl, rfl, h⟩
    | location b => cases h
  | location a =>
    cases y with
    | pointer q => cases h
    | location b => exact .inr ⟨a, b, rfl, rfl, h⟩

theorem isPartialOrder : IsPartialOrder Region fun x y => x.isParentOf y = true where
  refl x := by
    cases x with
    | pointer p => exact Pointer.isPartialOrder.refl p
    | location a => exact Location.isPartialOrder.refl a
  trans x y z hxy hyz := by
    rcases isParentOf_cases hxy with ⟨p, q, rfl, rfl, hpq⟩ | ⟨a, b, rfl, rfl, hab⟩
    · cases z with
      | pointer r => exact Pointer.isPartialOrder.trans p q r hpq hyz
      | location c => cases hyz
    · exact isParentOf_trans hab hyz
  antisymm x y hxy hyx := by
    rcases isParentOf_cases hxy with ⟨p, q, rfl, rfl, hpq⟩ | ⟨a, b, rfl, rfl, hab⟩
    · exact congrArg Region.pointer (Pointer.isPartialOrder.antisymm p q hpq hyx)
    · exact congrArg Region.location (Location.isPartialOrder.antisymm a b hab hyx)

end Region

namespace FaultReport

/-- What a report is after something was handed over to be marked: what is refused leaves it as it
was. -/
def afterSubmit (f : FaultReport) (x : Region ⊕ Value) : FaultReport :=
  match f.submit x with
  | .ok g => g
  | .error _ => f

/-- A report without any marks, after some things were handed over to be marked. -/
def markedBy (calls : List (Region ⊕ Value)) : FaultReport := calls.foldl afterSubmit {}

/-- The regions among the things that were handed over. -/
def regions (calls : List (Region ⊕ Value)) : List Region := calls.filterMap Sum.getLeft?

theorem markedBy_append (calls more : List (Region ⊕ Value)) :
    markedBy (calls ++ more) = more.foldl afterSubmit (markedBy calls) :=
  List.foldl_append

theorem ignored_mark (f : FaultReport) (region : Region) :
    (f.mark region).ignored = if region ∈ f.ignored then f.ignored else f.ignored ++ [region] := by
  unfold mark
  by_cases h : region ∈ f.ignored <;> simp [h]

/-- The marked regions are those handed over, each where it was first. -/
theorem ignored_markedBy (calls : List (Region ⊕ Value)) :
    (markedBy calls).ignored = (regions calls).eraseDups := by
  induction calls using List.reverseRecOn with
  | nil => rfl
  | append_singleton calls x ih =>
    rw [markedBy_append, regions, List.filterMap_append]
    cases x with
    | inl region =>
      have hstep : ([.inl region].foldl afterSubmit (markedBy calls)).ignored =
          ((markedBy calls).mark region).ignored := rfl
      have hregions : [Sum.inl region].filterMap (Sum.getLeft? (β := Value)) = [region] := rfl
      rw [hstep, ignored_mark, ih, hregions, eraseDups_concat]
      simp only [List.mem_eraseDups]
      rfl
    | inr v =>
      have hregions : [Sum.inr v].filterMap (Sum.getLeft? (α := Region)) = [] := rfl
      rw [hregions, List.append_nil]
      exact ih

/-- What is ignored lies in one of the regions that were handed over. -/
theorem covers_markedBy {calls : List (Region ⊕ Value)} {target : Region} :
    (markedBy calls).covers (.inl target) = true ↔
      ∃ region ∈ regions calls, region.isParentOf target = true := by
  rw [covers, isIgnored, ignored_markedBy, List.any_eq_true]
  simp only [List.mem_eraseDups]

/-- Ignoring is the ancestor test. One pointer lies at or above another one exactly if the texts say
so: they are the same, or the lower one goes on with a slash behind the upper one. This is a partial
order, on pointers as on locations, which must be of one document, and a pointer is never nested
with a location. After any calls that mark, in which what is no region is refused and changes
nothing, just that is ignored which lies in a region that was marked; so whatever lies below
something ignored is ignored, and further marks take nothing back. The marked regions are listed
once, in the order in which they first were. -/
theorem ignores_descendants :
    (∀ p q : Pointer, p.isParentOf q = true ↔
      q.text = p.text ∨ ∃ rest, q.text = p.text ++ "/" ++ rest) ∧
    IsPartialOrder Pointer (fun p q => p.isParentOf q = true) ∧
    IsPartialOrder Location (fun a b => a.isParentOf b = true) ∧
    (∀ a b : Location, a.isParentOf b = true ↔
      a.uri = b.uri ∧ a.pointer.isParentOf b.pointer = true) ∧
    (∀ (p : Pointer) (a : Location), (Region.pointer p).isParentOf (.location a) = false ∧
      (Region.location a).isParentOf (.pointer p) = false) ∧
    (∀ (f : FaultReport) (v : Value), f.submit (.inr v) = .error (.notPath v.typeName) ∧
      f.covers (.inr v) = false) ∧
    ∀ calls : List (Region ⊕ Value),
      (∀ target, (markedBy calls).covers (.inl target) = true ↔
        ∃ region ∈ regions calls, region.isParentOf target = true) ∧
      (∀ target below, (markedBy calls).covers (.inl target) = true →
        target.isParentOf below = true → (markedBy calls).covers (.inl below) = true) ∧
      (∀ more x, (markedBy calls).covers x = true → (markedBy (calls ++ more)).covers x = true) ∧
      (markedBy calls).ignored = (regions calls).eraseDups ∧
      (markedBy calls).ignored.Nodup ∧
      ∀ region, region ∈ (markedBy calls).ignored ↔ region ∈ regions calls := by
  refine ⟨fun p q => Pointer.isParentOf_iff_text, Pointer.isPartialOrder,
    Location.isPartialOrder, ?_, fun p a => ⟨rfl, rfl⟩, fun f v => ⟨rfl, rfl⟩, fun calls =>
    ⟨fun target => covers_markedBy, ?_, ?_, ignored_markedBy calls, ?_, ?_⟩⟩
  · intro a b
    rw [Location.isParentOf_iff, Pointer.isParentOf_iff]
  · intro target below h hbelow
    obtain ⟨region, hregion, hparent⟩ := covers_markedBy.mp h
    exact covers_markedBy.mpr ⟨region, hregion, Region.isPartialOrder.trans _ _ _ hparent hbelow⟩
  · intro more x h
    cases x with
    | inl target =>
      obtain ⟨region, hregion, hparent⟩ := covers_markedBy.mp h
      have hmore : regions (calls ++ more) = regions calls ++ regions more := List.filterMap_append
      exact covers_markedBy.mpr ⟨region, hmore ▸ List.mem_append_left _ hregion, hparent⟩
    | inr v => cases h
  · rw [ignored_markedBy]
    exact nodup_eraseDups _
  · intro region
    rw [ignored_markedBy, List.mem_eraseDups]

end FaultReport

end Conform
