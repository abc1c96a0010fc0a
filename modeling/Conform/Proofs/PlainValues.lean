import Conform.Log.Normal
import Conform.Proofs.JsonText

/-!
The plain form of values is one of documents: nothing foreign is left in it, its real numbers are
finite, and names stay distinct.
-/
namespace Conform.Value

/-- Whether a value holds no other values and is no real number. -/
def isAtom : Value → Bool
  | .real _ | .arr _ | .obj _ | .set _ => false
  | _ => true

/-- Whether a value is one that a program can hold: its real numbers are floating-point ones, and
no object in it, be it inside a set, has a name twice. -/
inductive Held : Value → Prop
  | atom {v : Value} (h : v.isAtom) : Held v
  | real {x : Real} (h : x.IsFloat) : Held (.real x)
  | arr {xs : List Value} (h : ∀ x ∈ xs, Held x) : Held (.arr xs)
  | set {xs : List Value} (h : ∀ x ∈ xs, Held x) : Held (.set xs)
  | obj {ms : Members} (hn : (Members.keys ms).Nodup) (h : ∀ m ∈ ms, Held m.2) : Held (.obj ms)

variable {v : Value} {ms : Members}

theorem Held.nodup (h : Held (.obj ms)) : (Members.keys ms).Nodup := by
  cases h with
  | atom h => cases h
  | obj hn _ => exact hn

theorem Held.of_mem (h : Held (.obj ms)) {m : String × Value} (hm : m ∈ ms) : m.2.Held := by
  cases h with
  | atom h => cases h
  | obj _ h => exact h m hm

theorem plainList_eq_map (xs : List Value) : plainList xs = xs.map plain := by
  induction xs with
  | nil => rfl
  | cons x xs ih => rw [plainList, ih, List.map_cons]

theorem plainMembers_eq_map (ms : Members) :
    plainMembers ms = ms.map fun m => (m.1, m.2.plain) := by
  induction ms with
  | nil => rfl
  | cons m ms ih => rw [plainMembers, ih, List.map_cons]

theorem mem_sortedByLiteral {xs : List Value} : v ∈ sortedByLiteral xs ↔ v ∈ xs :=
  List.mem_mergeSort

/-- The plain form has a JSON text, and that text tells it. -/
theorem Held.isJson_plain (h : v.Held) : v.plain.IsJson := by
  -- texts stand for what JSON has no values for: octets, paths, moments, and numbers without end
  induction h with
  | @atom v h =>
    cases v with
    | null => exact .null
    | bool b => exact .bool b
    | int n => exact .int n
    | str s => exact .str s
    | bytes os => exact .str _
    | path s => exact .str s
    | moment kind s => exact .str s
    | real | arr | obj | set => cases h
  | @real x h =>
    rw [plain]
    split
    · exact .real h
    · exact .str _
  | @arr xs _ ih =>
    rw [plain, plainList_eq_map]
    refine .arr ?_
    intro y hy
    obtain ⟨x, hx, rfl⟩ := List.mem_map.mp hy
    exact ih x hx
  | @set xs _ ih =>
    rw [plain, plainList_eq_map]
    refine .arr ?_
    intro y hy
    obtain ⟨x, hx, rfl⟩ := List.mem_map.mp (mem_sortedByLiteral.mp hy)
    exact ih x hx
  | @obj ms _ _ ih =>
    rw [plain, plainMembers_eq_map]
    refine .obj ?_
    intro m' hm'
    obtain ⟨m, hm, rfl⟩ := List.mem_map.mp hm'
    exact ih m hm

theorem Held.distinct_plain (h : v.Held) : v.plain.Distinct := by
  induction h with
  | @atom v h =>
    cases v with
    | real | arr | obj | set => cases h
    | _ => exact .leaf rfl
  | @real x h =>
    rw [plain]
    split <;> exact .leaf rfl
  | @arr xs _ ih =>
    rw [plain, plainList_eq_map]
    refine .list ?_
    intro y hy
    obtain ⟨x, hx, rfl⟩ := List.mem_map.mp hy
    exact ih x hx
  | @set xs _ ih =>
    rw [plain, plainList_eq_map]
    refine .list ?_
    intro y hy
    obtain ⟨x, hx, rfl⟩ := List.mem_map.mp (mem_sortedByLiteral.mp hy)
    exact ih x hx
  | @obj ms hn _ ih =>
    rw [plain, plainMembers_eq_map]
    have hkeys : Members.keys (ms.map fun m => (m.1, m.2.plain)) = Members.keys ms := by
      rw [Members.keys, Members.keys, List.map_map]
      rfl
    refine .object (hkeys ▸ hn) ?_
    intro m' hm'
    obtain ⟨m, hm, rfl⟩ := List.mem_map.mp hm'
    exact ih m hm

end Conform.Value
