/-!
Queues that never make their writers wait: what does not fit is dropped and counted.
-/
namespace Conform.Log

structure Queue (α : Type) where
  /-- How many may wait, if that is limited. -/
  capacity : Option Nat
  waiting : List α := []
  dropped : Nat := 0
  deriving Repr

namespace Queue

/-- A queue of a size; without a positive one there is no limit. -/
def ofSize (size : Int) : Queue α := ⟨if 0 < size then some size.toNat else none, [], 0⟩

def isFull (q : Queue α) : Bool :=
  match q.capacity with
  | some n => decide (n ≤ q.waiting.length)
  | none => false

def offer (q : Queue α) (x : α) : Queue α :=
  if q.isFull then { q with dropped := q.dropped + 1 } else { q with waiting := q.waiting ++ [x] }

def offerAll (q : Queue α) (xs : List α) : Queue α := xs.foldl offer q

/-- Takes the first that waits. -/
def take? (q : Queue α) : Option (α × Queue α) :=
  match q.waiting with
  | x :: xs => some (x, { q with waiting := xs })
  | [] => none

end Queue

end Conform.Log
