import Conform.Number.Real

/-!
Document values. Objects keep the order of their members. Besides the seven kinds of a JSON
document there are the foreign values that schemas, configurations and log records may carry.
-/
namespace Conform

inductive MomentKind where
  | date | time | dateTime
  deriving DecidableEq, Repr

inductive Value where
  | null
  | bool (b : Bool)
  | int (n : Int)
  | real (x : Real)
  | str (s : String)
  | arr (items : List Value)
  | obj (members : List (String × Value))
  | bytes (octets : List UInt8)
  | set (items : List Value)
  | path (text : String)
  /-- A calendar value, held by its text. -/
  | moment (kind : MomentKind) (text : String)
  deriving Repr, Inhabited

abbrev Members := List (String × Value)

namespace Members

def get? (ms : Members) (k : String) : Option Value := ms.lookup k

def has (ms : Members) (k : String) : Bool := ms.any (·.1 == k)

def keys (ms : Members) : List String := ms.map (·.1)

/-- Sets a member: in its place if the name is there, otherwise at the end. -/
def put : Members → String → Value → Members
  | [], k, v => [(k, v)]
  | (k', v') :: ms, k, v => if k' = k then (k, v) :: ms else (k', v') :: put ms k v

/-- Members in the order of their names, code point by code point. -/
def sorted (ms : Members) : Members := ms.mergeSort fun a b => !decide (b.1 < a.1)

end Members

namespace Value

/-- The name of a value's type in messages. -/
def typeName : Value → String
  | .null => "NoneType"
  | .bool _ => "bool"
  | .int _ => "int"
  | .real _ => "float"
  | .str _ => "str"
  | .arr _ => "list"
  | .obj _ => "dict"
  | .bytes _ => "bytes"
  | .set _ => "set"
  | .path _ => "PosixPath"
  | .moment .date _ => "date"
  | .moment .time _ => "time"
  | .moment .dateTime _ => "datetime"

/-- The name of a value's kind in messages about keyword values. -/
def label : Value → String
  | .null => "null"
  | .bool _ => "boolean"
  | .int _ => "integer"
  | .real _ => "number"
  | .str _ => "string"
  | .arr _ => "array"
  | .obj _ => "object"
  | v => v.typeName

def isNumber : Value → Bool
  | .int _ | .real _ => true
  | _ => false

def isArray : Value → Bool
  | .arr _ => true
  | _ => false

def members? : Value → Option Members
  | .obj ms => some ms
  | _ => none

/-- Elements that can be reached by position. Octets count as integers. -/
def elements? : Value → Option (List Value)
  | .arr xs => some xs
  | .bytes os => some (os.map fun o => .int o.toNat)
  | _ => none

/-- Whether a value stands for yes: neither null, false, zero nor empty. -/
def isTruthy : Value → Bool
  | .null => false
  | .bool b => b
  | .int n => n != 0
  | .real x => !x.isZero
  | .str s => !s.isEmpty
  | .arr xs => !xs.isEmpty
  | .obj ms => !ms.isEmpty
  | .bytes os => !os.isEmpty
  | .set xs => !xs.isEmpty
  | .path _ => true
  | .moment _ _ => true

mutual

/-- The number of values in a value, itself included. -/
def size : Value → Nat
  | .arr xs => 1 + sizeList xs
  | .obj ms => 1 + sizeMembers ms
  | .set xs => 1 + sizeList xs
  | .bytes os => 1 + os.length
  | _ => 1

def sizeList : List Value → Nat
  | [] => 0
  | x :: xs => x.size + sizeList xs

def sizeMembers : List (String × Value) → Nat
  | [] => 0
  | (_, x) :: ms => x.size + sizeMembers ms

end

end Value

end Conform
