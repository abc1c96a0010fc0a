/-!
Answers that may be faults: when a sequence of two answers, and when it fails.
-/
namespace Conform.Answer

variable {ε α β : Type}

theorem bind_ok {x : Except ε α} {f : α → Except ε β} {b : β} :
    x.bind f = .ok b ↔ ∃ a, x = .ok a ∧ f a = .ok b := by
  cases x <;> simp [Except.bind]

theorem bind_error {x : Except ε α} {f : α → Except ε β} {e : ε} :
    x.bind f = .error e ↔ x = .error e ∨ ∃ a, x = .ok a ∧ f a = .error e := by
  cases x <;> simp [Except.bind]

@[simp]
theorem do_ok {x : Except ε α} {f : α → Except ε β} {b : β} :
    (x >>= f) = .ok b ↔ ∃ a, x = .ok a ∧ f a = .ok b :=
  bind_ok

@[simp]
theorem do_error {x : Except ε α} {f : α → Except ε β} {e : ε} :
    (x >>= f) = .error e ↔ x = .error e ∨ ∃ a, x = .ok a ∧ f a = .error e :=
  bind_error

@[simp]
theorem map_ok {x : Except ε α} {f : α → β} {b : β} :
    x.map f = .ok b ↔ ∃ a, x = .ok a ∧ f a = b := by
  cases x <;> simp [Except.map]

@[simp]
theorem map_error {x : Except ε α} {f : α → β} {e : ε} :
    x.map f = .error e ↔ x = .error e := by
  cases x <;> simp [Except.map]

theorem ok_of_toOption {x : Except ε α} {a : α} (h : x.toOption = some a) : x = .ok a := by
  cases x with
  | error e => cases h
  | ok b => exact congrArg Except.ok (Option.some.inj h)

@[simp]
theorem pure_eq_ok (a : α) : (pure a : Except ε α) = .ok a := rfl

/-- What a loop over answers keeps, if every step does. -/
theorem foldlM_ok {f : β → α → Except ε β} {P : β → Prop} {l : List α}
    (hf : ∀ b a b', P b → a ∈ l → f b a = .ok b' → P b') {b b' : β} (hb : P b)
    (h : l.foldlM f b = .ok b') : P b' := by
  induction l generalizing b with
  | nil =>
    obtain rfl := Except.ok.inj h
    exact hb
  | cons a l ih =>
    rw [List.foldlM_cons] at h
    obtain ⟨c, hc, h⟩ := do_ok.mp h
    exact ih (fun b a b' hb ha => hf b a b' hb (List.mem_cons_of_mem _ ha))
      (hf b a c hb List.mem_cons_self hc) h

/-- What every fault of a loop over answers is, if every step's is. -/
theorem foldlM_error {f : β → α → Except ε β} {P : ε → Prop} {l : List α}
    (hf : ∀ b a e, f b a = .error e → P e) {b : β} {e : ε} (h : l.foldlM f b = .error e) : P e := by
  induction l generalizing b with
  | nil => cases h
  | cons a l ih =>
    rw [List.foldlM_cons] at h
    rcases do_error.mp h with h | ⟨c, _, h⟩
    · exact hf b a e h
    · exact ih h

/-- Answers that are the same fault, or results that are related. -/
inductive Rel {γ : Type} (R : α → γ → Prop) : Except ε α → Except ε γ → Prop
  | error (e : ε) : Rel R (.error e) (.error e)
  | ok {a : α} {c : γ} (h : R a c) : Rel R (.ok a) (.ok c)

namespace Rel

variable {α' β' : Type} {R : α → α' → Prop} {S : β → β' → Prop} {x : Except ε α} {y : Except ε α'}

theorem bind (h : Rel R x y) {f : α → Except ε β} {g : α' → Except ε β'}
    (hfg : ∀ a b, R a b → Rel S (f a) (g b)) : Rel S (x.bind f) (y.bind g) := by
  cases h with
  | error e => exact .error e
  | ok h => exact hfg _ _ h

theorem map (h : Rel R x y) {f : α → β} {g : α' → β'} (hfg : ∀ a b, R a b → S (f a) (g b)) :
    Rel S (x.map f) (y.map g) := by
  cases h with
  | error e => exact .error e
  | ok h => exact .ok (hfg _ _ h)

theorem imp {S : α → α' → Prop} (h : Rel R x y) (hRS : ∀ a b, R a b → S a b) : Rel S x y := by
  cases h with
  | error e => exact .error e
  | ok h => exact .ok (hRS _ _ h)

/-- One answer, made to related results. -/
theorem same_map (a : Except ε α) {f : α → β} {g : α → β'} (h : ∀ x, a = .ok x → S (f x) (g x)) :
    Rel S (a.map f) (a.map g) := by
  cases a with
  | error e => exact .error e
  | ok x => exact .ok (h x rfl)

/-- One answer, and related ways to go on from it. -/
theorem same_bind (a : Except ε α) {f : α → Except ε β} {g : α → Except ε β'}
    (h : ∀ x, Rel S (f x) (g x)) : Rel S (a.bind f) (a.bind g) := by
  cases a with
  | error e => exact .error e
  | ok x => exact h x

theorem eq_error {e : ε} (h : Rel R (.error e) y) : y = .error e := by
  cases h
  rfl

theorem exists_ok {a : α} (h : Rel R (.ok a : Except ε α) y) : ∃ b, y = .ok b ∧ R a b := by
  cases h with
  | ok h => exact ⟨_, rfl, h⟩

theorem of_ok {a : α} {b : α'} (h : Rel R (.ok a : Except ε α) (.ok b)) : R a b := by
  cases h with
  | ok h => exact h

end Rel

end Conform.Answer
