import Conform.Checker.Basic
import Conform.Value.Written

/-!
What each test finds at a site: nothing when it holds, otherwise one diagnostic.
-/
namespace Conform

namespace Value

/-- The number of elements, members, characters or octets. -/
def count (v : Value) : Except Fault Nat :=
  match v with
  | .str s => .ok s.length
  | .arr xs | .set xs => .ok xs.length
  | .obj ms => .ok ms.length
  | .bytes os => .ok os.length
  | v => .error (.unsized v.typeName)

/-- The elements, member names, characters or octets, one by one. -/
def parts (v : Value) : Except Fault (List Value) :=
  match v with
  | .str s => .ok (s.toList.map fun c => .str c.toString)
  | .arr xs | .set xs => .ok xs
  | .obj ms => .ok (ms.map fun m => .str m.1)
  | .bytes os => .ok (os.map fun o => .int o.toNat)
  | v => .error (.uniterable v.typeName)

/-- A number as an exact decimal; a boolean counts as zero or one. -/
def toDecimal (v : Value) : Except Fault Decimal :=
  match v with
  | .bool b => .ok (.ofInt (if b then 1 else 0))
  | _ =>
    match v.decimal? with
    | some d => .ok d
    | none => .error .notNumeric

/-- The text of a number as an exact decimal. -/
def decimalText (v : Value) : Except Fault String :=
  match v with
  | .real x => .ok x.decimalText
  | v => v.toDecimal.map Decimal.text

/-- Compact text for messages, cut after `limit` characters. -/
def rendered (limit : Nat) (v : Value) : Except Fault String :=
  let cs := (Json.compact v).toList
  if !v.isWritable then .error .unwritable
  else if limit < cs.length then .ok (String.ofList (cs.take (limit - 3)) ++ "...")
  else .ok (String.ofList cs)

end Value

namespace Test

def commaList (names : List String) : String := String.intercalate ", " names

def texts (names : List String) : Value := .arr (names.map .str)

/-- Whether a count is on the allowed side of its limit. -/
def within (lower : Bool) (limit n : Nat) : Bool :=
  if lower then decide (limit ≤ n) else decide (n ≤ limit)

/-- The first of `xs`, which stand from position `i` on, that equals `y`. -/
def firstEqual (y : Value) : Nat → List Value → Option Nat
  | _, [] => none
  | i, x :: xs => if x.equal y then some i else firstEqual y (i + 1) xs

/-- The first element that repeats an earlier one, with the first that it repeats; `seen` holds
the elements already passed. -/
def firstRepetition (seen : List Value) : List Value → Option (Nat × Nat)
  | [] => none
  | y :: ys =>
    match firstEqual y 0 seen with
    | some left => some (left, seen.length)
    | none => firstRepetition (seen ++ [y]) ys

def boundHolds (exclusive lower : Bool) (limit found : Decimal) : Bool :=
  match lower, exclusive with
  | true, true => limit.lt found
  | true, false => limit.le found
  | false, true => found.lt limit
  | false, false => found.le limit

def boundRelation : (exclusive lower : Bool) → String
  | true, true => "not greater than"
  | false, true => "lower than"
  | true, false => "not lower than"
  | false, false => "greater than"

def occurs (part : List Char) : List Char → Bool
  | [] => part.isEmpty
  | c :: cs => part.isPrefixOf (c :: cs) || occurs part cs

/-- The names that are no members of an object; of an array, no elements; of a text, no stretch
of it. -/
def missing (names : List String) : Value → Except Fault (List String)
  | .obj ms => .ok (names.filter fun n => !Members.has ms n)
  | .arr xs => .ok (names.filter fun n => !xs.any (·.equal (.str n)))
  | .str s => .ok (names.filter fun n => !occurs n.toList s.toList)
  | v => .error (.unsearchable v.typeName)

/-- Whether a name is neither declared nor matched by a pattern. -/
def isUndeclared (declared : List String) (patterns : List Pattern) (name : String) :
    Except Fault Bool :=
  if declared.contains name then .ok false
  else (Pattern.searchAny name patterns).map not

def sortedNames (names : List String) : List String := names.mergeSort fun a b => !decide (b < a)

/-- Whether a part is no declared name and matches no pattern. -/
def isExtra (declared : List String) (patterns : List Pattern) : Value → Except Fault Bool
  | .str n => isUndeclared declared patterns n
  | .arr _ => .error (.unhashable "list")
  | .obj _ => .error (.unhashable "dict")
  | v => if patterns.isEmpty then .ok true else .error (.notText v.typeName)

def areOrdered : Value → Value → Bool
  | .str _, .str _ => true
  | .null, _ | _, .null | .str _, _ | _, .str _ => false
  | _, _ => true

def numberLt (v w : Value) : Bool :=
  match v.toDecimal, w.toDecimal with
  | .ok x, .ok y => x.lt y
  | _, _ => false

/-- Why parts that are not all texts cannot be listed as names: two neighbours have no order, or
else the parts are numbers, of which the least, `first` so far, comes first. -/
def unlistable (first : Value) : List Value → Fault
  | [] => .notName first.typeName
  | [v] => .notName (if numberLt v first then v else first).typeName
  | v :: w :: vs =>
    if areOrdered v w then unlistable (if numberLt v first then v else first) (w :: vs)
    else .unordered w.typeName v.typeName

def asName : Value → Option String
  | .str n => some n
  | _ => none

/-- The names that are not allowed, in order. Of an array they are elements, of a text its
characters. -/
def extraNames (declared : List String) (patterns : List Pattern) :
    Value → Except Fault (List String)
  | .obj ms => ((Members.keys ms).filterM (isUndeclared declared patterns)).map sortedNames
  | v => do
    let extra ← (← v.parts).filterM (isExtra declared patterns)
    match extra.mapM asName with
    | some names => return sortedNames names
    | none => throw (unlistable (extra.headD .null) extra)

/-- Says nothing of a condition that is met; of another one what there is to say, if that can be
written. -/
def complainUnless (met : Bool) (complaint : Except Fault Diagnostic) :
    Except Fault (Option Diagnostic) :=
  if met then .ok none else complaint.map some

/-- What the test has to say about the value of a site. -/
def finding (t : Test) (s : Site) : Except Fault (Option Diagnostic) :=
  match t with
  | .itemCount keyword limit lower => do
    let n ← s.value.count
    complainUnless (within lower limit n) do
      let most ← (Value.int limit).written
      return s.diagnostic
        ("array has " ++ (if lower then "fewer" else "more") ++ " than " ++ most ++
          " items (found " ++ toString n ++ ")")
        keyword [("found", .int n), ("limit", .int limit)]
  | .distinct => do
    let xs ← s.value.parts
    return (firstRepetition [] xs).map fun (left, right) =>
      s.diagnostic
        ("array items " ++ toString left ++ " and " ++ toString right ++ " are equal")
        (some "uniqueItems") [("duplicates", .arr [.int left, .int right])]
  | .tupleLength allowed => do
    let n ← s.value.count
    complainUnless (decide (n ≤ allowed)) (.ok (s.diagnostic
      ("array has " ++ toString n ++ " items but additional items are not allowed beyond " ++
        toString allowed)
      (some "additionalItems") [("found", .int n), ("allowed", .int allowed)]))
  | .bound keyword limit exclusive lower => do
    let found ← s.value.toDecimal
    let most ← limit.toDecimal
    complainUnless (boundHolds exclusive lower most found) do
      let number ← s.value.written
      let required ← limit.written
      return s.diagnostic
        ("number " ++ number ++ " is " ++ boundRelation exclusive lower ++ " the required " ++
          keyword ++ " " ++ required)
        keyword [("found", s.value), ("limit", limit), ("exclusive", .bool exclusive)]
  | .multiple divisor => do
    let found ← s.value.toDecimal
    let unit ← divisor.toDecimal
    complainUnless (found.isMultipleOf unit) do
      let number ← s.value.written
      let wanted ← divisor.written
      return s.diagnostic ("number " ++ number ++ " is not a multiple of " ++ wanted)
        (some "divisibleBy") [("found", s.value), ("divisor", divisor)]
  | .textLength keyword limit lower => do
    let text ← s.value.written
    complainUnless (within lower limit text.length) do
      let most ← (Value.int limit).written
      return s.diagnostic
        ("string is " ++ (if lower then "shorter than the minimum" else "longer than the maximum") ++
          " length " ++ most ++ " (found " ++ toString text.length ++ ")")
        keyword [("found", .int text.length), ("limit", .int limit)]
  | .pattern p => do
    let text ← s.value.written
    complainUnless (← p.search text) (.ok (s.diagnostic
      ("string does not match pattern " ++ Text.quoted p.source)
      (some "pattern") [("pattern", .str p.source)]))
  | .required names => do
    let absent ← missing names s.value
    complainUnless absent.isEmpty (.ok (s.diagnostic
      ("required properties are missing: " ++ commaList absent)
      (some "properties") [("missing", texts absent)]))
  | .closed declared patterns => do
    let extra ← extraNames declared patterns s.value
    complainUnless extra.isEmpty (.ok (s.diagnostic
      ("additional properties are not allowed: " ++ commaList extra)
      (some "additionalProperties") [("unwanted", texts extra)]))
  | .oneOf values =>
    complainUnless (values.any s.value.equal) do
      let shown ← s.value.rendered 60
      return s.diagnostic ("value " ++ shown ++ " is not one of the enumerated values")
        (some "enum") [("enum", .arr values)]
  | .format f => do
    let kind ← s.kind
    if !f.kinds.contains kind then return none
    complainUnless (← f.check s.value) (.ok (s.diagnostic
      ("value is not a valid " ++ f.name) (some "format") [("format", .str f.name)]))

end Test

end Conform
