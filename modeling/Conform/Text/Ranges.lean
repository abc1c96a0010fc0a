/-!
Sorted tables of code points and their look-up by bisection.
-/
namespace Conform.Text

/-- The last entry of a sorted table whose key is at most `c`, searched between `low` and `high`;
every step halves the gap, so `fuel` need only exceed its binary logarithm. -/
def lastAtMost (key : Nat → Nat) (c : Nat) : Nat → Nat → Nat → Nat
  | 0, low, _ => low
  | fuel + 1, low, high =>
    if high ≤ low + 1 then low
    else
      let mid := (low + high) / 2
      if key mid ≤ c then lastAtMost key c fuel mid high else lastAtMost key c fuel low mid

abbrev RangeTable := Array (Nat × Nat)

/-- Whether `c` lies in one of the closed ranges of a sorted table. -/
def RangeTable.covers (t : RangeTable) (c : Nat) : Bool :=
  let i := lastAtMost (fun i => (t.getD i (0, 0)).1) c 32 0 t.size
  let (low, high) := t.getD i (1, 0)
  decide (low ≤ c) && decide (c ≤ high)

/-- Entries `(first, last, step, shift)`: every `step`-th code point from `first` to `last` is
moved by `shift`. -/
abbrev ShiftTable := Array (Nat × Nat × Nat × Int)

/-- The image of `c` under a sorted table of shifts; a code point outside it stays. -/
def ShiftTable.shifted (t : ShiftTable) (c : Nat) : Nat :=
  let i := lastAtMost (fun i => (t.getD i (0, 0, 1, 0)).1) c 32 0 t.size
  let (first, last, step, shift) := t.getD i (1, 0, 1, 0)
  if first ≤ c ∧ c ≤ last ∧ (c - first) % step = 0 then (c + shift).toNat else c

end Conform.Text
