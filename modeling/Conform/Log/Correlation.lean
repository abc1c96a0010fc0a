import Conform.Fault
import Conform.Text.Blank

/-!
Correlation fields: names with texts that records written inside a scope carry. Scopes are nested,
and an inner one may bind names anew or unbind them.
-/
namespace Conform.Log

abbrev Correlation := List (String × String)

namespace Correlation

def put : Correlation → String → String → Correlation
  | [], k, s => [(k, s)]
  | (k', s') :: c, k, s => if k' = k then (k, s) :: c else (k', s') :: put c k s

def drop (c : Correlation) (k : String) : Correlation := c.filter (·.1 != k)

/-- Binds one name, or unbinds it by null. Blanks around names and texts do not count. -/
def bind (c : Correlation) (field : String × Value) : Except Fault Correlation :=
  let name := Text.trim field.1
  let unfit := Fault.setting ("correlation." ++ name) "value must be a non-empty string"
  if name.isEmpty then .error (.setting "correlation" "field name must not be empty")
  else
    match field.2 with
    | .null => .ok (drop c name)
    | .str s => if (Text.trim s).isEmpty then .error unfit else .ok (put c name (Text.trim s))
    | _ => .error unfit

/-- The fields inside a scope that is entered where `c` holds; one unfit field refuses it. -/
def enter (c : Correlation) (fields : Members) : Except Fault Correlation := fields.foldlM bind c

def members (c : Correlation) : Members := c.map fun f => (f.1, .str f.2)

end Correlation

end Conform.Log
