import Conform.Value.Basic

/-!
Equality of document values: numbers by value whatever their form, objects by name whatever the
order of their members. A boolean equals only a boolean.
-/
namespace Conform.Value

/-- Numbers as exact decimals; `none` for other values and for numbers that are not finite. -/
def decimal? : Value → Option Decimal
  | .int n => some (.ofInt n)
  | .real (.finite d) => some d
  | _ => none

def numberEqual (a b : Value) : Bool :=
  match a, b with
  | .real x, .real y => x.equal y
  | _, _ =>
    match a.decimal?, b.decimal? with
    | some x, some y => x.equal y
    | _, _ => false

mutual

def equal : Value → Value → Bool
  | .null, .null => true
  | .bool a, .bool b => a == b
  | .int a, .int b => a == b
  | .int a, .real y => numberEqual (.int a) (.real y)
  | .real x, .int b => numberEqual (.real x) (.int b)
  | .real x, .real y => x.equal y
  | .str a, .str b => a == b
  | .arr xs, .arr ys => equalList xs ys
  | .obj ms, .obj ns => ms.length == ns.length && equalMembers ms ns
  | _, _ => false

def equalList : List Value → List Value → Bool
  | [], [] => true
  | x :: xs, y :: ys => equal x y && equalList xs ys
  | _, _ => false

/-- Every member of the first list has an equal member of its name in the second. -/
def equalMembers : List (String × Value) → List (String × Value) → Bool
  | [], _ => true
  | (k, x) :: ms, ns =>
    (match ns.lookup k with
      | some y => equal x y
      | none => false) && equalMembers ms ns

end

/-- A truth value as the number that sets take it for. -/
def counted : Value → Value
  | .bool b => .int (if b then 1 else 0)
  | v => v

/-- Whether a set holds two values as one. -/
def coincides (a b : Value) : Bool :=
  match a, b with
  | .bytes xs, .bytes ys => xs == ys
  | .path s, .path t => s == t
  | a, b => a.counted.equal b.counted

def small? : Value → Option Nat
  | .int n => if 0 ≤ n ∧ n < 8 then some n.toNat else none
  | _ => none

/-- The set of some values, each kept where it came first. Small numbers alone are in order. -/
def setOf (xs : List Value) : Value :=
  let kept := xs.foldl (fun kept x => if kept.any (·.coincides x) then kept else kept ++ [x]) []
  match kept.mapM small? with
  | some ns => .set ((ns.mergeSort (· ≤ ·)).map fun (n : Nat) => .int n)
  | none => .set kept

end Conform.Value
