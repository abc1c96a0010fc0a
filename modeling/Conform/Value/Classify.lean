import Conform.Fault

/-!
Classification of values and reading of type names. Values that no document holds have no kind.
-/
namespace Conform.Kind

def classify (v : Value) : Except Fault Kind :=
  match of? v with
  | some k => .ok k
  | none =>
    match v with
    | .real x => .error (.nonFinite x)
    | v => .error (.notDocument v.typeName)

/-- The kind that a type name stands for. -/
def parse : Value → Except Fault Kind
  | .str s =>
    match ofName? s with
    | some k => .ok k
    | none => .error (.typeNameUnknown s)
  | v => .error (.typeNameShape v.typeName)

def isAny : Value → Bool
  | .str s => s == anyName
  | _ => false

/-- Whether a value is of the named type. -/
def holds (name v : Value) : Except Fault Bool :=
  if isAny name then .ok true
  else do
    let expected ← parse name
    let actual ← classify v
    return accepts expected actual

end Conform.Kind
