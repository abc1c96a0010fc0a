import Conform.Checker.Basic
import Conform.Text.Integer

/-!
The children of arrays and objects, and the schemas that a node holds for each.
-/
namespace Conform

/-- A schema for a child, with the way to it from the schema of its container. -/
structure ChildSchema where
  steps : List Token
  schema : Value
  deriving Repr

namespace ChildSchema

def ofMember (ms : Members) (name : String) : List ChildSchema :=
  match ms.get? name with
  | some (.obj s) => [⟨[.name name], .obj s⟩]
  | _ => []

/-- The position that a token stands for. -/
def position : Token → Except Fault Int
  | .index n => .ok n
  | .name s =>
    match Text.readInteger s with
    | .ok n => .ok n
    | .error (.tooLong digits) => .error (.digitLimit digits)
    | .error .shape => .error (.position s)

/-- Positions below zero count from the end. -/
def elementAt? (xs : List Value) (i : Int) : Option Value :=
  let j := if i < 0 then xs.length + i else i
  if j < 0 then none else xs[j.toNat]?

/-- The schemas for the element at a position. -/
def forElement (node : Members) (token : Token) : Except Fault (List ChildSchema) :=
  match node.get? "items" with
  | some (.obj s) => .ok [⟨[.name "items"], .obj s⟩]
  | some items =>
    match items.elements? with
    | none => .ok []
    | some xs => do
      let i ← position token
      if i < xs.length then
        match elementAt? xs i with
        | some schema => return [⟨[.name "items", .index i], schema⟩]
        | none => throw (.outOfRange items.typeName)
      else return ofMember node "additionalItems"
  | none => .ok []

def declared (node : Members) (name : String) : List ChildSchema :=
  match node.get? "properties" with
  | some (.obj properties) =>
    match Members.get? properties name with
    | some s => [⟨[.name "properties", .name name], s⟩]
    | none => []
  | _ => []

/-- The schemas whose patterns match a name, in the order of the patterns. -/
def matching (name : String) : Members → Except Fault (List ChildSchema)
  | [] => .ok []
  | (source, schema) :: rest => do
    let matched ← (← Pattern.compile source).search name
    let found ← matching name rest
    return if matched then ⟨[.name "patternProperties", .name source], schema⟩ :: found
      else found

def patterned (node : Members) (name : String) : Except Fault (List ChildSchema) :=
  match node.get? "patternProperties" with
  | some (.obj patterns) => matching name patterns
  | _ => .ok []

/-- The schemas for the member of a name; the one for all other members comes into play only if
there is none. -/
def forMember (node : Members) (token : Token) : Except Fault (List ChildSchema) := do
  let found ← (patterned node token.text).map (declared node token.text ++ ·)
  return if found.isEmpty then ofMember node "additionalProperties" else found

def ofKind : Kind → Members → Token → Except Fault (List ChildSchema)
  | .array => forElement
  | .object => forMember
  | _ => fun _ _ => .ok []

end ChildSchema

namespace Value

/-- Elements by position, members by name. -/
def children : Value → List (Token × Value)
  | .obj ms => ms.map fun m => (.name m.1, m.2)
  | v => ((v.elements?.getD []).zipIdx).map fun x => (.index x.2, x.1)

end Value

/-- A child and one schema to judge it by. -/
structure Job where
  token : Token
  value : Value
  schema : ChildSchema
  deriving Repr

namespace Job

def forChildren (kind : Kind) (node : Members) :
    List (Token × Value) → Except Fault (List Job)
  | [] => .ok []
  | (token, value) :: rest => do
    let schemas ← ChildSchema.ofKind kind node token
    let jobs ← forChildren kind node rest
    return schemas.map (⟨token, value, ·⟩) ++ jobs

/-- Everything there is to judge below a site, in the order of the children. -/
def ofSite (kind : Kind) (s : Site) : Except Fault (List Job) := do
  let node ← s.node
  forChildren kind node s.value.children

def site (s : Site) (j : Job) : Site :=
  s.child j.schema.schema j.value j.token j.schema.steps

end Job

end Conform
