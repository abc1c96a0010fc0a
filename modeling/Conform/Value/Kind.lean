import Conform.Value.Text

/-!
The seven kinds of document values, by which keywords are selected.
-/
namespace Conform

inductive Kind where
  | object | array | string | integer | number | boolean | null
  deriving DecidableEq, Repr

namespace Kind

/-- All kinds, in the order in which messages list them. -/
def all : List Kind := [.object, .array, .string, .integer, .number, .boolean, .null]

def name : Kind → String
  | .object => "object"
  | .array => "array"
  | .string => "string"
  | .integer => "integer"
  | .number => "number"
  | .boolean => "boolean"
  | .null => "null"

def ofName? (s : String) : Option Kind := all.find? (·.name == s)

/-- The kind of a document value; `none` for a value that no document holds. -/
def of? : Value → Option Kind
  | .null => some .null
  | .bool _ => some .boolean
  | .int _ => some .integer
  | .real x => if x.isFinite then some .number else none
  | .str _ => some .string
  | .obj _ => some .object
  | .arr _ => some .array
  | _ => none

def allNames : String := String.intercalate ", " (all.map name)

/-- The name that every kind matches. -/
def anyName : String := "any"

def isTypeName (s : String) : Bool := s == anyName || (ofName? s).isSome

/-- Whether a value of kind `actual` is of the type `expected`: integers are numbers. -/
def accepts (expected actual : Kind) : Bool :=
  expected == actual || (expected == .number && actual == .integer)

/-- Kinds in the order of their names, each once. -/
def sortedNames (ks : List Kind) : List String :=
  (all.filter ks.contains).map name |>.mergeSort fun a b => !decide (b < a)

end Kind

end Conform
