import Conform.Fault
import Conform.Text.Integer

/-!
Values as they are written into messages. An integer with more digits than are written keeps the
whole value that holds it from being written.
-/
namespace Conform.Value

mutual

/-- Whether no integer in a value has too many digits. -/
def isWritable : Value → Bool
  | .int n => Text.isWritable n
  | .arr xs | .set xs => areWritable xs
  | .obj ms => areMembersWritable ms
  | _ => true

def areWritable : List Value → Bool
  | [] => true
  | x :: xs => x.isWritable && areWritable xs

def areMembersWritable : List (String × Value) → Bool
  | [] => true
  | (_, x) :: ms => x.isWritable && areMembersWritable ms

end

/-- The text of a value, if it can be written. -/
def written (v : Value) : Except Fault String :=
  if v.isWritable then .ok v.text else .error .unwritable

/-- The literal of a value, if it can be written. -/
def writtenLiteral (v : Value) : Except Fault String :=
  if v.isWritable then .ok v.literal else .error .unwritable

end Conform.Value
