import Conform.Keyword.Expect

/-!
The builders of the known keywords. Each reads the value of its own keyword, and for some
keywords that of its companions, and refuses what is malformed.
-/
namespace Conform.Keyword

/-- The value that a node has for a keyword. -/
def own (node : Members) (keyword : String) : Except Fault Value :=
  match node.get? keyword with
  | some v => .ok v
  | none => .error (.absent keyword)

/-- The value of a keyword that may be left out. -/
def ownOr (node : Members) (keyword : String) (default : Value) : Value :=
  (node.get? keyword).getD default

def asTest (t : Test) : Built := .logic (.test t)

def itemCountBuilder (keyword : String) (lower : Bool) (node : Members) : Except Fault Built := do
  let limit ← Expect.count keyword (← own node keyword)
  return asTest (.itemCount keyword limit lower)

def textLengthBuilder (keyword : String) (lower : Bool) (node : Members) : Except Fault Built := do
  let limit ← Expect.count keyword (← own node keyword)
  return asTest (.textLength keyword limit lower)

def boundBuilder (keyword exclusiveKeyword : String) (lower : Bool) (node : Members) :
    Except Fault Built := do
  let limit ← Expect.number keyword (← own node keyword)
  let exclusive ← Expect.boolean exclusiveKeyword (ownOr node exclusiveKeyword (.bool false))
  return asTest (.bound keyword limit exclusive lower)

def isPositive : Value → Bool
  | .int n => 0 < n
  | .real (.finite d) => d.isPositive
  | _ => false

def divisibleByBuilder (node : Members) : Except Fault Built := do
  let divisor ← Expect.number "divisibleBy" (← own node "divisibleBy")
  if !isPositive divisor then
    let shown ← divisor.written
    throw (.malformed "divisibleBy" ("divisor must be strictly positive, got " ++ shown))
  return asTest (.multiple divisor)

def uniqueItemsBuilder (node : Members) : Except Fault Built := do
  let wanted ← Expect.boolean "uniqueItems" (← own node "uniqueItems")
  return if wanted then asTest .distinct else .checker .always

def itemsBuilder (node : Members) : Except Fault Built := do
  let _ ← Expect.schemas "items" (← own node "items")
  return .checker .always

/-- A boolean, or a schema that children are judged by. -/
def switch (keyword : String) (v : Value) : Except Fault Bool :=
  match v with
  | .bool b => .ok b
  | .obj _ => .ok true
  | _ => .error (.malformed keyword ("expected a boolean or a schema, got " ++ v.label))

def additionalItemsBuilder (node : Members) : Except Fault Built := do
  let more ← switch "additionalItems" (← own node "additionalItems")
  match more, node.get? "items" with
  | false, some (.arr xs) => return asTest (.tupleLength xs.length)
  | _, _ => return .checker .always

/-- Reads a pattern; one that is no regular expression is malformed. -/
def pattern? (keyword source : String) : Except Fault Pattern :=
  match Pattern.compile source with
  | .ok p => .ok p
  | .error (.pattern m) =>
    .error (.malformed keyword ("invalid regular expression " ++ Text.quoted source ++ ": " ++ m))
  | .error f => .error f

def patterns (sources : List String) : Except Fault (List Pattern) :=
  sources.mapM (pattern? "patternProperties")

def patternBuilder (node : Members) : Except Fault Built := do
  let source ← Expect.string "pattern" (← own node "pattern")
  return asTest (.pattern (← pattern? "pattern" source))

def requiredNames : List (String × Members) → Except Fault (List String)
  | [] => .ok []
  | (name, ms) :: rest => do
    let wanted ← Expect.boolean ("properties." ++ name ++ ".required")
      (ownOr ms "required" (.bool false))
    let names ← requiredNames rest
    return if wanted then name :: names else names

def propertiesBuilder (node : Members) : Except Fault Built := do
  let names ← requiredNames (← Expect.schemaMap "properties" (← own node "properties"))
  return if names.isEmpty then .checker .always else asTest (.required names)

def patternPropertiesBuilder (node : Members) : Except Fault Built := do
  let schemas ← Expect.schemaMap "patternProperties" (← own node "patternProperties")
  let _ ← patterns (schemas.map (·.1))
  return .checker .always

def additionalPropertiesBuilder (node : Members) : Except Fault Built := do
  let more ← switch "additionalProperties" (← own node "additionalProperties")
  if more then return .checker .always
  match ownOr node "properties" (.obj []), ownOr node "patternProperties" (.obj []) with
  | .obj declared, .obj sources =>
    return asTest (.closed (Members.keys declared) (← patterns (Members.keys sources)))
  | _, _ =>
    throw (.malformed "additionalProperties"
      "sibling properties/patternProperties must be objects")

/-- The alternatives of a type: names, and schemas with their positions. -/
def alternatives (keyword : String) : Nat → List Value → Except Fault (List String × List Part)
  | _, [] => .ok ([], [])
  | i, .str s :: rest =>
    if Kind.isTypeName s then
      (alternatives keyword (i + 1) rest).map fun (names, parts) => (s :: names, parts)
    else .error (.malformed keyword ("unknown type name " ++ Text.quoted s))
  | i, .obj ms :: rest =>
    (alternatives keyword (i + 1) rest).map fun (names, parts) =>
      (names, ⟨some i, .obj ms⟩ :: parts)
  | i, _ :: _ =>
    .error (.malformed keyword ("element " ++ toString i ++ ": expected a type name or a schema"))

def typesBuilder (keyword : String) (negated : Bool) (node : Members) : Except Fault Built := do
  let (names, schemas) ← match ← own node keyword with
    | .str s => alternatives keyword 0 [.str s]
    | .arr [] => throw (.malformed keyword "array must not be empty")
    | .arr xs => alternatives keyword 0 xs
    | v => throw (.malformed keyword ("expected a string or an array, got " ++ v.label))
  return .logic (.types keyword names schemas negated)

def enumBuilder (node : Members) : Except Fault Built := do
  match ← own node "enum" with
  | .arr [] => throw (.malformed "enum" "array must not be empty")
  | .arr xs => return asTest (.oneOf xs)
  | v => throw (.malformed "enum" ("expected an array, got " ++ v.label))

def extendingBuilder (node : Members) : Except Fault Built := do
  return .logic (.extending (← Expect.schemas "extends" (← own node "extends")))

/-- What each member asks for: the names of siblings, or a schema. -/
def dependencyList :
    Members → Except Fault (List (String × List String) × List (String × Value))
  | [] => .ok ([], [])
  | (name, .str s) :: rest =>
    (dependencyList rest).map fun (required, schemas) => ((name, [s]) :: required, schemas)
  | (name, .obj ms) :: rest =>
    (dependencyList rest).map fun (required, schemas) => (required, (name, .obj ms) :: schemas)
  | (name, .arr xs) :: rest => do
    let siblings ← Expect.strings ("dependencies." ++ name) xs
    let (required, schemas) ← dependencyList rest
    return ((name, siblings) :: required, schemas)
  | (name, v) :: _ =>
    .error (.malformed "dependencies" ("member " ++ Text.quoted name ++
      ": expected a string, an array of strings or a schema, got " ++ v.label))

def dependenciesBuilder (node : Members) : Except Fault Built := do
  match ← own node "dependencies" with
  | .obj ms =>
    let (required, schemas) ← dependencyList ms
    return .logic (.dependencies required schemas)
  | v => throw (.malformed "dependencies" ("expected an object, got " ++ v.label))

def referenceBuilder (node : Members) : Except Fault Built := do
  return .logic (.reference (← Expect.string "$ref" (← own node "$ref")))

def formatBuilder (node : Members) : Except Fault Built := do
  let name ← Expect.string "format" (← own node "format")
  match Format.ofName? name with
  | some f => return asTest (.format f)
  | none => return .logic (.unknownFormat name)

end Conform.Keyword
