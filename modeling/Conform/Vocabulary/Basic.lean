import Conform.Checker.Test

/-!
Vocabularies: keyword names with the kinds of values they apply to and the builders of their
checkers, in the order of their first registration.
-/
namespace Conform

structure Entry where
  name : String
  kinds : List Kind
  builder : Builder
  order : Nat

structure Vocabulary where
  entries : List Entry := []

namespace Vocabulary

def lookup (v : Vocabulary) (name : String) : Option Entry := v.entries.find? (·.name == name)

def names (v : Vocabulary) : List String := v.entries.map (·.name)

def contains (v : Vocabulary) (name : String) : Bool := v.names.contains name

/-- Overwrites in place, or appends. -/
def put : List Entry → String → List Kind → Builder → Nat → List Entry
  | [], name, kinds, builder, order => [⟨name, kinds, builder, order⟩]
  | e :: es, name, kinds, builder, order =>
    if e.name = name then ⟨name, kinds, builder, e.order⟩ :: es
    else e :: put es name kinds builder order

/-- What holds of all entries still holds if it does of the new one, whatever its place. -/
theorem forall_put {P : Entry → Prop} {es : List Entry} {name : String} {kinds : List Kind}
    {builder : Builder} {order : Nat} (hes : ∀ x ∈ es, P x)
    (hnew : ∀ place, P ⟨name, kinds, builder, place⟩) :
    ∀ x ∈ put es name kinds builder order, P x := by
  induction es with
  | nil => exact List.forall_mem_singleton.mpr (hnew order)
  | cons y es ih =>
    obtain ⟨hy, hes⟩ := List.forall_mem_cons.mp hes
    rw [put]
    split
    · exact List.forall_mem_cons.mpr ⟨hnew y.order, hes⟩
    · exact List.forall_mem_cons.mpr ⟨hy, ih hes⟩

def insert (v : Vocabulary) (name : String) (kinds : List Kind) (builder : Builder) :
    Vocabulary :=
  ⟨put v.entries name kinds builder v.entries.length⟩

/-- The registered names among `keys` that apply to values of a kind, in registration order. -/
def applicable (v : Vocabulary) (keys : List String) (kind : Kind) : List Entry :=
  v.entries.filter fun e => keys.contains e.name && e.kinds.contains kind

/-- A keyword's name: any text but the empty one. -/
def keywordName : Value → Except Fault String
  | .str s => if s.isEmpty then .error (.setting "keyword" "name must not be empty") else .ok s
  | v => .error (.setting "keyword" ("name must be a string, got " ++ v.typeName))

def kindsOf : List Value → Except Fault (List Kind)
  | [] => .ok []
  | v :: vs => do
    let k ← Kind.parse v
    let ks ← kindsOf vs
    return k :: ks

/-- The type names of a registration: a single one, or every part of a value. -/
def typeNames (types : Value) : Except Fault (List Value) :=
  match types with
  | .str s => .ok [.str s]
  | v => v.parts

/-- The kinds that the type names of a keyword stand for. -/
def applicableKinds (name : String) (types : Value) : Except Fault (List Kind) := do
  let kinds ← kindsOf (← typeNames types)
  if kinds.isEmpty then
    throw (.setting ("keyword " ++ Text.quoted name) "applicable type set must not be empty")
  return kinds

end Vocabulary

/-- What a registration asks for; a builder that cannot be called is none. -/
structure Request where
  name : Value
  types : Value
  builder : Option Builder

/-- A request that has been checked. -/
structure Registration where
  name : String
  kinds : List Kind
  builder : Builder

/-- Checks the name, the types and the builder, in this order. -/
def Request.read (q : Request) : Except Fault Registration := do
  let name ← Vocabulary.keywordName q.name
  let kinds ← Vocabulary.applicableKinds name q.types
  match q.builder with
  | none => throw (.setting ("keyword " ++ Text.quoted name) "builder must be callable")
  | some builder => return ⟨name, kinds, builder⟩

namespace Entry

def registration (e : Entry) : Registration := ⟨e.name, e.kinds, e.builder⟩

/-- The request that asks for the entry again. -/
def request (e : Entry) : Request :=
  ⟨.str e.name, .set (e.kinds.map fun k => .str k.name), some e.builder⟩

end Entry

end Conform
