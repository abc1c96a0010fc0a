import Conform.Documents
import Conform.Proofs.Answer

/-!
References that cannot be read. Most references that cannot be followed lead nowhere, and that is
reported; the others have a text that cannot be split or joined, or name a position by more digits
than a number may have.
-/
namespace Conform

namespace Uri

variable {f : Fault}

theorem badValue_of_checkBracketed {host : List Char} (h : checkBracketed host = .error f) :
    ∃ m, f = .badValue m := by
  unfold checkBracketed at h
  split at h
  · split at h
    · cases h
    · cases h
      exact ⟨_, rfl⟩
  · split at h
    · cases h
      exact ⟨_, rfl⟩
    · split at h
      · cases h
      · cases h
        exact ⟨_, rfl⟩

theorem badValue_of_checkBrackets {host : List Char} (h : checkBrackets host = .error f) :
    ∃ m, f = .badValue m := by
  unfold checkBrackets at h
  split at h
  · dsimp only at h
    split at h
    · cases h
      exact ⟨_, rfl⟩
    · exact badValue_of_checkBracketed h
  · exact badValue_of_checkBracketed h

theorem badValue_of_checkAuthority {cs : List Char} (h : checkAuthority cs = .error f) :
    ∃ m, f = .badValue m := by
  unfold checkAuthority at h
  split at h
  · cases h
    exact ⟨_, rfl⟩
  · split at h
    · exact badValue_of_checkBrackets h
    · cases h

theorem badValue_of_checkHidden {cs : List Char} (h : checkHidden cs = .error f) :
    ∃ m, f = .badValue m := by
  unfold checkHidden at h
  split at h
  · cases h
    exact ⟨_, rfl⟩
  · cases h

/-- A text is split unless its authority is at fault; the fault is told in words. -/
theorem badValue_of_split {base cs : List Char} (h : split base cs = .error f) :
    ∃ m, f = .badValue m := by
  unfold split at h
  rcases Answer.do_error.mp h with h | ⟨_, _, h⟩
  · exact badValue_of_checkAuthority h
  · rcases Answer.do_error.mp h with h | ⟨_, _, h⟩
    · exact badValue_of_checkHidden h
    · cases h

theorem badValue_of_parse {base cs : List Char} (h : parse base cs = .error f) :
    ∃ m, f = .badValue m := by
  rcases Answer.do_error.mp h with h | ⟨u, _, h⟩
  · exact badValue_of_split h
  · split at h
    · cases h
    · cases h

theorem badValue_of_join {base reference : String} (h : join base reference = .error f) :
    ∃ m, f = .badValue m := by
  unfold join at h
  split at h
  · cases h
  · split at h
    · cases h
    · rcases Answer.do_error.mp h with h | ⟨b, _, h⟩
      · exact badValue_of_parse h
      · rcases Answer.do_error.mp h with h | ⟨r, _, h⟩
        · exact badValue_of_parse h
        · cases h

theorem badValue_of_defragment {s : String} (h : defragment s = .error f) :
    ∃ m, f = .badValue m := by
  unfold defragment at h
  split at h
  · rcases Answer.do_error.mp h with h | ⟨u, _, h⟩
    · exact badValue_of_parse h
    · cases h
  · cases h

end Uri

namespace Pointer

/-- A walk that does not arrive has come to nothing, or cannot read a position. -/
theorem isReference_or_digitLimit_of_walk {p : Pointer} {ts : List String} {depth : Nat} {v : Value}
    {f : Fault} (h : walk p depth ts v = .error f) :
    f.isReference ∨ ∃ n, f = .digitLimit n := by
  induction ts generalizing depth v with
  | nil => cases h
  | cons t ts ih =>
    unfold walk at h
    dsimp only at h
    split at h
    · split at h
      · exact ih h
      · cases h
        exact .inl rfl
    · split at h
      · rename_i g hg
        cases h
        -- a token that is no position is none; only its length can be too much
        unfold index? at hg
        dsimp only at hg
        split at hg
        · cases hg
        · split at hg
          · cases hg
          · split at hg
            · cases hg
              exact .inr ⟨_, rfl⟩
            · cases hg
      · cases h
        exact .inl rfl
      · split at h
        · exact ih h
        · cases h
          exact .inl rfl
    · cases h
      exact .inl rfl

end Pointer

namespace Documents

/-- The address of the document that a reference found at `uri` is to, and the fragment. -/
def destination (uri ref : String) : Except Fault (String × String) := do
  let target ← Uri.join uri ref
  let (key, fragment) ← Uri.defragment target
  let key ← if key.isEmpty then pure uri else address key
  return (key, fragment)

/-- A fault of the text of a reference: it has no destination, or a position in its fragment cannot
be read as a number. -/
inductive Unreadable (d : Documents) (uri ref : String) : Fault → Prop
  | text {f : Fault} (h : destination uri ref = .error f) : Unreadable d uri ref f
  | position {key fragment : String} {document : Value} {p : Pointer} {n : Nat}
      (hdest : destination uri ref = .ok (key, fragment))
      (hd : d.entries.get? key = some document) (hp : fragmentPointer fragment = .ok p)
      (h : p.resolve document = .error (.digitLimit n)) : Unreadable d uri ref (.digitLimit n)

variable {d : Documents} {uri ref : String} {f : Fault}

theorem resolve_eq (d : Documents) (ref : String) (base : Location) :
    d.resolve (.str ref) base = (destination base.uri ref).bind fun parts =>
      match d.entries.get? parts.1 with
      | none => .error (.noDocument parts.1)
      | some document => do
        let pointer ← fragmentPointer parts.2
        let node ← pointer.resolve document
        return (⟨parts.1, pointer⟩, node) := by
  unfold resolve destination
  dsimp only
  cases Uri.join base.uri ref with
  | error g => rfl
  | ok target =>
    simp only [bind, Except.bind]
    cases Uri.defragment target with
    | error g => rfl
    | ok parts =>
      dsimp only
      by_cases hkey : parts.1.isEmpty
      · rw [if_pos hkey, if_pos hkey]
        rfl
      · rw [if_neg hkey, if_neg hkey]
        cases address parts.1 with
        | error g => rfl
        | ok key => rfl

theorem badValue_of_destination (h : destination uri ref = .error f) : ∃ m, f = .badValue m := by
  rcases Answer.do_error.mp h with h | ⟨target, _, h⟩
  · exact Uri.badValue_of_join h
  · rcases Answer.do_error.mp h with h | ⟨parts, _, h⟩
    · exact Uri.badValue_of_defragment h
    · dsimp only at h
      split at h
      · cases h
      · rcases Answer.do_error.mp h with h | ⟨key, _, h⟩
        · exact Uri.badValue_of_defragment (Answer.map_error.mp h)
        · cases h

theorem isReference_of_destination (h : destination uri ref = .error f) :
    f.isReference = false := by
  obtain ⟨m, rfl⟩ := badValue_of_destination h
  rfl

/-- Resolving fails otherwise than by leading nowhere just if the text cannot be read. -/
theorem unreadable_iff : d.Unreadable uri ref f ↔
    d.resolve (.str ref) { uri } = .error f ∧ f.isReference = false := by
  rw [resolve_eq, Answer.bind_error]
  constructor
  · intro h
    cases h with
    | text h => exact ⟨.inl h, isReference_of_destination h⟩
    | position hdest hd hp h =>
      refine ⟨.inr ⟨_, hdest, ?_⟩, rfl⟩
      simp [hd, hp, h]
  · intro h
    obtain ⟨h | ⟨⟨key, fragment⟩, hdest, h⟩, hf⟩ := h
    · exact .text h
    · split at h
      · cases h
        cases hf
      · rename_i document hd
        rcases Answer.do_error.mp h with h | ⟨p, hp, h⟩
        · -- whatever is wrong with the fragment is reported as such
          unfold fragmentPointer at h
          split at h
          · cases h
          · cases h
            cases hf
        · rcases Answer.do_error.mp h with h | ⟨node, _, h⟩
          · rcases Pointer.isReference_or_digitLimit_of_walk h with hr | ⟨n, rfl⟩
            · rw [hf] at hr
              cases hr
            · exact .position hdest hd hp h
          · cases h

end Documents

end Conform
