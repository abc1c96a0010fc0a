import Conform.Proofs.Lines

/-!
Correlation fields inside scopes. A scope is refused for the first of its fields that is not fit,
and then no field is bound. Main statement: inside a scope that was entered, a name stands for what
the last field of that name says, and for what it stood for outside if there is no such field.
-/
namespace Conform.Log

namespace Correlation

variable {c c' : Correlation} {fields : Members} {field : String × Value} {name : String}

/-- Whether a scope takes a field: it has a name, and a text unless the name is unbound. -/
def isFit (field : String × Value) : Bool :=
  !(Text.trim field.1).isEmpty &&
    match field.2 with
    | .null => true
    | .str s => !(Text.trim s).isEmpty
    | _ => false

/-- What is said of a field that is not fit. -/
def complaint (field : String × Value) : Fault :=
  if (Text.trim field.1).isEmpty then .setting "correlation" "field name must not be empty"
  else .setting ("correlation." ++ Text.trim field.1) "value must be a non-empty string"

/-- What a scope is refused with, if it is. -/
def refusal (fields : Members) : Option Fault := (fields.find? fun f => !isFit f).map complaint

/-- The text that a field binds its name to, if it does not unbind it. -/
def bound : Value → Option String
  | .str s => some (Text.trim s)
  | _ => none

/-- What a name stands for inside a scope. The last field of that name counts. -/
def inside (fields : Members) (name : String) (outside : Option String) : Option String :=
  match fields.reverse.find? fun f => Text.trim f.1 == name with
  | some f => bound f.2
  | none => outside

/-- What a name stands for inside scopes, the innermost of which comes first. -/
def inForce : List Members → String → Option String
  | [], _ => none
  | fields :: outer, name => inside fields name (inForce outer name)

theorem lookup_put (c : Correlation) (k s name : String) :
    (c.put k s).lookup name = if k = name then some s else c.lookup name := by
  induction c with
  | nil =>
    rw [put, Members.lookup_cons]
    simp only [eq_comm, List.lookup_nil]
  | cons f c ih =>
    rw [put]
    split
    · rename_i hk
      rw [Members.lookup_cons, Members.lookup_cons, hk]
      by_cases hname : name = k
      · rw [if_pos hname, if_pos hname.symm]
      · rw [if_neg hname, if_neg (Ne.symm hname), if_neg hname]
    · rename_i hk
      rw [Members.lookup_cons, Members.lookup_cons, ih]
      by_cases hname : name = f.1
      · have hother : k ≠ name := fun h => hk (hname.symm.trans h.symm)
        rw [if_pos hname, if_neg hother, if_pos hname]
      · rw [if_neg hname, if_neg hname]

theorem lookup_drop (c : Correlation) (k name : String) :
    (c.drop k).lookup name = if k = name then none else c.lookup name := by
  by_cases h : k = name
  · rw [if_pos h, ← h]
    exact Members.lookup_filter_self c k
  · rw [if_neg h]
    exact Members.lookup_filter_of_ne (Ne.symm h) c

theorem bind_of_unfit (c : Correlation) (h : isFit field = false) :
    c.bind field = .error (complaint field) := by
  obtain ⟨name, v⟩ := field
  unfold bind complaint
  cases hname : (Text.trim name).isEmpty with
  | true => simp [hname]
  | false =>
    cases v with
    | null => simp [isFit, hname] at h
    | str s =>
      have hblank : (Text.trim s).isEmpty = true := by simpa [isFit, hname] using h
      simp [hname, hblank]
    | _ => simp [hname]

theorem bind_of_fit (c : Correlation) (h : isFit field = true) :
    ∃ c', c.bind field = .ok c' ∧
      ∀ name, c'.lookup name =
        if Text.trim field.1 = name then bound field.2 else c.lookup name := by
  obtain ⟨k, v⟩ := field
  obtain ⟨hname, hv⟩ := Bool.and_eq_true_iff.mp h
  have hk : (Text.trim k).isEmpty = false := by simpa using hname
  cases v with
  | null => exact ⟨c.drop (Text.trim k), by simp [bind, hk], lookup_drop c _⟩
  | str s =>
    have hs : (Text.trim s).isEmpty = false := by simpa using hv
    exact ⟨c.put (Text.trim k) (Text.trim s), by simp [bind, hk, hs], lookup_put c _ _⟩
  | _ => cases hv

theorem inside_cons (field : String × Value) (fields : Members) (name : String)
    (outside : Option String) :
    inside (field :: fields) name outside =
      inside fields name (if Text.trim field.1 = name then bound field.2 else outside) := by
  unfold inside
  rw [List.reverse_cons, List.find?_append]
  cases fields.reverse.find? fun f => Text.trim f.1 == name with
  | some f => rfl
  | none =>
    by_cases h : Text.trim field.1 = name
    · simp [h]
    · simp [h]

theorem refusal_cons (field : String × Value) (fields : Members) :
    refusal (field :: fields) =
      if isFit field then refusal fields else some (complaint field) := by
  unfold refusal
  cases h : isFit field with
  | true => simp [h]
  | false => simp [h]

theorem refusal_eq_none_iff : refusal fields = none ↔ ∀ field ∈ fields, isFit field = true := by
  simp [refusal]

theorem enter_cons (c : Correlation) (field : String × Value) (fields : Members) :
    c.enter (field :: fields) = (c.bind field).bind fun c => c.enter fields :=
  List.foldlM_cons

/-- Fields that are not fit refuse a scope, and the first of them says why. -/
theorem enter_of_refusal {f : Fault} (c : Correlation) (h : refusal fields = some f) :
    c.enter fields = .error f := by
  induction fields generalizing c with
  | nil => cases h
  | cons field fields ih =>
    rw [refusal_cons] at h
    rw [enter_cons]
    cases hfit : isFit field with
    | true =>
      obtain ⟨c', hc', -⟩ := bind_of_fit c hfit
      rw [if_pos hfit] at h
      rw [hc']
      exact ih c' h
    | false =>
      rw [if_neg (by simp [hfit])] at h
      rw [bind_of_unfit c hfit, ← Option.some.inj h]
      rfl

/-- Fields that are fit are bound, from the first to the last. -/
theorem enter_of_fit (c : Correlation) (h : refusal fields = none) :
    ∃ c', c.enter fields = .ok c' ∧
      ∀ name, c'.lookup name = inside fields name (c.lookup name) := by
  induction fields generalizing c with
  | nil => exact ⟨c, rfl, fun _ => rfl⟩
  | cons field fields ih =>
    rw [refusal_cons] at h
    cases hfit : isFit field with
    | true =>
      obtain ⟨c₁, hbind, hfirst⟩ := bind_of_fit c hfit
      rw [if_pos hfit] at h
      obtain ⟨c', henter, hrest⟩ := ih c₁ h
      refine ⟨c', ?_, fun name => ?_⟩
      · rw [enter_cons, hbind]
        exact henter
      · rw [hrest, hfirst, inside_cons]
    | false =>
      rw [if_neg (by simp [hfit])] at h
      cases h

theorem refusal_of_enter (h : c.enter fields = .ok c') : refusal fields = none := by
  cases hrefused : refusal fields with
  | none => rfl
  | some f =>
    rw [enter_of_refusal c hrefused] at h
    cases h

theorem lookup_enter (h : c.enter fields = .ok c') (name : String) :
    c'.lookup name = inside fields name (c.lookup name) := by
  obtain ⟨c₁, hc₁, hlookup⟩ := enter_of_fit c (refusal_of_enter h)
  obtain rfl : c₁ = c' := Except.ok.inj (hc₁.symm.trans h)
  exact hlookup name

/-- A name that an inner scope unbinds, and one that it leaves alone. -/
example :
    let scopes := [[(" b ", .null)], [("a", .str " x "), ("b", .str "y")]]
    inForce scopes "a" = some "x" ∧ inForce scopes "b" = none := by decide

theorem eq_nil_iff_lookup : c = [] ↔ ∀ name, c.lookup name = none := by
  constructor
  · rintro rfl name
    rfl
  · intro h
    cases c with
    | nil => rfl
    | cons f c =>
      have hfirst := h f.1
      rw [Members.lookup_cons, if_pos rfl] at hfirst
      cases hfirst

end Correlation

end Conform.Log
