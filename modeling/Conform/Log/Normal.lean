import Conform.Value.Text

/-!
The plain form of values in log records: what no document can hold becomes text, and sets become
lists in the order of their literals.
-/
namespace Conform.Value

def sortedByLiteral (xs : List Value) : List Value :=
  xs.mergeSort fun a b => !decide (b.literal < a.literal)

mutual

def plain : Value → Value
  | .real x => if x.isFinite then .real x else .str x.text
  | .arr xs => .arr (plainList xs)
  | .obj ms => .obj (plainMembers ms)
  | .set xs => .arr (sortedByLiteral (plainList xs))
  | .bytes os => .str (Text.quotedOctets os)
  | .path s => .str s
  | .moment _ s => .str s
  | v => v

def plainList : List Value → List Value
  | [] => []
  | x :: xs => x.plain :: plainList xs

def plainMembers : List (String × Value) → Members
  | [] => []
  | (k, x) :: ms => (k, x.plain) :: plainMembers ms

end

end Conform.Value
