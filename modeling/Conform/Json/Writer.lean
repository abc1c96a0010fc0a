import Conform.Fault
import Conform.Text.Integer

/-!
Compact JSON text with sorted member names. Only quotation marks, backslashes and control
characters are escaped. Numbers that are not finite have names of their own.
-/
namespace Conform.Json

def escaped (c : Char) : List Char :=
  if c = '"' ∨ c = '\\' then ['\\', c]
  else if c = '\n' then ['\\', 'n']
  else if c = '\r' then ['\\', 'r']
  else if c = '\t' then ['\\', 't']
  else if c.toNat = 12 then ['\\', 'f']
  else if c.toNat = 8 then ['\\', 'b']
  else if c.toNat < 32 then '\\' :: 'u' :: Text.hexDigits 4 c.toNat
  else [c]

def stringText (s : String) : String :=
  String.ofList ('"' :: s.toList.flatMap escaped ++ ['"'])

def realText : Real → String
  | .nan => "NaN"
  | .infinite negative => Decimal.signText negative ++ "Infinity"
  | x => x.text

def enclosed (open_ close : String) (parts : List String) : String :=
  open_ ++ String.intercalate "," parts ++ close

mutual

/-- The text of a value; a foreign value is written as the string `foreign` gives for it. -/
def write (foreign : Value → String) : Value → String
  | .null => "null"
  | .bool b => if b then "true" else "false"
  | .int n => toString n
  | .real x => realText x
  | .str s => stringText s
  | .arr xs => enclosed "[" "]" (writeList foreign xs)
  | .obj ms =>
    enclosed "\x7b" "\x7d" (((writeMembers foreign ms).mergeSort
      fun a b => !decide (b.1 < a.1)).map fun m => stringText m.1 ++ ":" ++ m.2)
  | v => stringText (foreign v)

def writeList (foreign : Value → String) : List Value → List String
  | [] => []
  | x :: xs => write foreign x :: writeList foreign xs

def writeMembers (foreign : Value → String) : List (String × Value) → List (String × String)
  | [] => []
  | (k, x) :: ms => (k, write foreign x) :: writeMembers foreign ms

end

/-- JSON text in which foreign values appear as strings. -/
def compact (v : Value) : String := write Value.text v

mutual

/-- Why a value has no text: for the first value inside it, in the order in which it is written,
that is foreign or too long. -/
def refusal : Value → Option Fault
  | .int n => if Text.isWritable n then none else some .unwritable
  | .arr xs => refusalOfList xs
  | .obj ms => ((refusalsOfMembers ms).mergeSort fun a b => !decide (b.1 < a.1)).findSome? (·.2)
  | .null | .bool _ | .real _ | .str _ => none
  | v => some (.unserializable v.typeName)

def refusalOfList : List Value → Option Fault
  | [] => none
  | x :: xs =>
    match refusal x with
    | some f => some f
    | none => refusalOfList xs

def refusalsOfMembers : List (String × Value) → List (String × Option Fault)
  | [] => []
  | (k, x) :: ms => (k, refusal x) :: refusalsOfMembers ms

end

/-- The text of a value in which nothing is foreign or too long. -/
def text (v : Value) : Except Fault String :=
  match refusal v with
  | some f => .error f
  | none => .ok (compact v)

end Conform.Json
